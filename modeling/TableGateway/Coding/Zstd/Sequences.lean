import TableGateway.Coding.Fault
import TableGateway.Coding.Output
import TableGateway.Coding.StateCode
import TableGateway.Coding.Steps

-- The sequences of a block: each takes some literals, and then repeats bytes that
-- came before. Its three numbers are in three codes that run side by side.

namespace TableGateway.Coding.Zstd

/-! ## Codes -/

/-- A kind of number in sequences: the greatest symbol, the longest start of a code,
the usual code, and for each symbol the least number with the bits that add to it. -/
structure NumberKind where
  maxSymbol : Nat
  maxLog : Nat
  usual : StateCode
  steps : Array (Nat × Nat)

namespace NumberKind

/-- Numbers of literals. -/
def literals : NumberKind where
  maxSymbol := 35
  maxLog := 9
  usual := .ofShares 6 ([4, 3] ++ List.replicate 11 2 ++ [1, 1, 1] ++ List.replicate 9 2 ++
    [3, 2, 1, 1, 1, 1, 1] ++ List.replicate 4 (-1))
  steps := (Steps.ofWidths 0 (List.replicate 16 0 ++ [1, 1, 1, 1, 2, 2, 3, 3, 4] ++
    (List.range 11).map (· + 6))).toArray

/-- How far back bytes are, or which of the last places is meant. -/
def offsets : NumberKind where
  maxSymbol := 31
  maxLog := 8
  usual := .ofShares 5 (List.replicate 6 1 ++ [2, 2, 2] ++ List.replicate 15 1 ++
    List.replicate 5 (-1))
  steps := ((List.range 32).map fun width => (Nat.pow 2 width, width)).toArray

/-- Numbers of repeated bytes. -/
def lengths : NumberKind where
  maxSymbol := 52
  maxLog := 9
  usual := .ofShares 6 ([1, 4, 3] ++ List.replicate 6 2 ++ List.replicate 37 1 ++
    List.replicate 7 (-1))
  steps := (Steps.ofWidths 3 (List.replicate 32 0 ++ [1, 1, 1, 1, 2, 2, 3, 3, 4, 4, 5] ++
    (List.range 10).map (· + 7))).toArray

/-- Reads the code of a kind: the usual one, one with a single symbol, one that is
written out, or the one before. The place after it comes with it. -/
def readCode (kind : NumberKind) (form : Nat) (before : Option StateCode) (data : ByteArray)
    (start stop : Nat) : Option (StateCode × Nat) :=
  if form = 0 then some (kind.usual, start)
  else if form = 1 then
    let symbol := (Bits.byteAt data start).toNat
    if stop ≤ start ∨ kind.maxSymbol < symbol then none else some (.constant symbol, start + 1)
  else if form = 2 then
    (StateCode.readShares data start stop kind.maxSymbol kind.maxLog).map
      fun (log, shares, next) => (.ofShares log shares, next)
  else before.map fun code => (code, start)

/-- The number of a state: the least one for its symbol, and the bits that add to it. -/
def read (kind : NumberKind) (state : CodeState) (bits : BackBits) : Nat × BackBits :=
  let (least, width) := kind.steps.getD state.symbol (0, 0)
  let (more, bits) := bits.take width
  (least + more, bits)

end NumberKind

/-- The three codes of a block. -/
structure SequenceCodes where
  literals : StateCode
  offsets : StateCode
  lengths : StateCode

/-! ## Heads -/

/-- The head of sequences: their number, their codes, and the place after it. -/
structure SequenceHead where
  count : Nat
  codes : Option SequenceCodes
  next : Nat

/-- The number of sequences, in one to three bytes, with the place after it. -/
def readCount (data : ByteArray) (start stop : Nat) : Except FrameFault (Nat × Nat) :=
  let first := (Bits.byteAt data start).toNat
  let size := if first < 128 then 1 else if first < 255 then 2 else 3
  if stop < start + size then .error .wrongSize
  else if size = 1 then .ok (first, start + 1)
  else if size = 2 then
    .ok ((first - 128) * 256 + Bits.bytesAt data (start + 1) 1, start + 2)
  else .ok (Bits.bytesAt data (start + 1) 2 + 0x7F00, start + 3)

/-- The codes that a byte of forms tells. -/
def readCodes (data : ByteArray) (forms start stop : Nat) (before : Option SequenceCodes) :
    Option (SequenceCodes × Nat) := do
  let (literals, next) ← NumberKind.literals.readCode (forms / 64)
    (before.map SequenceCodes.literals) data start stop
  let (offsets, next) ← NumberKind.offsets.readCode (forms / 16 % 4)
    (before.map SequenceCodes.offsets) data next stop
  let (lengths, next) ← NumberKind.lengths.readCode (forms / 4 % 4)
    (before.map SequenceCodes.lengths) data next stop
  some ({ literals, offsets, lengths }, next)

/-- The head of the sequences of a block. Without sequences nothing may follow. -/
def SequenceHead.read (data : ByteArray) (start stop : Nat) (before : Option SequenceCodes) :
    Except FrameFault SequenceHead := do
  let (count, next) ← readCount data start stop
  if count = 0 then
    if next = stop then .ok { count, codes := before, next } else .error .corrupted
  else if stop ≤ next then .error .wrongSize
  else
    let forms := (Bits.byteAt data next).toNat
    if forms % 4 ≠ 0 then .error .corrupted
    else
      match readCodes data forms (next + 1) stop before with
      | some (codes, next) => .ok { count, codes := some codes, next }
      | none => .error .corrupted

/-! ## Sequences -/

/-- The last three places, nearest use first. -/
structure LastOffsets where
  first : Nat := 1
  second : Nat := 4
  third : Nat := 8
deriving Repr, DecidableEq

namespace LastOffsets

/-- How far back bytes are, for a number of a sequence. The first three numbers mean the
last places. Where no literals are taken they mean one place further on, and the third
is the one before the first. -/
def find (last : LastOffsets) (number : Nat) (hasLiterals : Bool) : Nat × LastOffsets :=
  if number > 3 then (number - 3, ⟨number - 3, last.first, last.second⟩)
  else
    match (if hasLiterals then number else number + 1) with
    | 1 => (last.first, last)
    | 2 => (last.second, ⟨last.second, last.first, last.third⟩)
    | 3 => (last.third, ⟨last.third, last.first, last.second⟩)
    | _ => (last.first - 1, ⟨last.first - 1, last.first, last.second⟩)

end LastOffsets

/-- What sequences work on: literals and how many are taken, the output, the last
places, and the size that the output may grow to. -/
structure Work where
  literals : ByteArray
  taken : Nat := 0
  out : ByteArray
  last : LastOffsets
  limit : Nat

/-- Takes literals and repeats bytes. -/
def Work.sequence (work : Work) (count offset length : Nat) : Except FrameFault Work :=
  if work.limit < work.out.size + count + length then .error .noRoom
  else if work.literals.size < work.taken + count then .error .corrupted
  else
    let out := Output.copyInput work.literals work.taken count work.out
    if offset = 0 ∨ out.size < offset then .error .corrupted
    else .ok { work with
      taken := work.taken + count
      out := Output.repeatBytes offset length out }

/-- Takes the literals that are left. -/
def Work.finish (work : Work) : Except FrameFault Work :=
  let count := work.literals.size - work.taken
  if work.limit < work.out.size + count then .error .noRoom
  else .ok { work with
    taken := work.literals.size
    out := Output.copyInput work.literals work.taken count work.out }

/-- The states of the three codes. -/
structure SequenceStates where
  literals : CodeState
  offsets : CodeState
  lengths : CodeState

/-- Carries out so many sequences. After the last one no states follow. -/
def runSequences (codes : SequenceCodes) : Nat → SequenceStates → BackBits → Work →
    Except FrameFault (BackBits × Work)
  | 0, _, bits, work => .ok (bits, work)
  | count + 1, states, bits, work => do
    let (number, bits) := NumberKind.offsets.read states.offsets bits
    let (length, bits) := NumberKind.lengths.read states.lengths bits
    let (taken, bits) := NumberKind.literals.read states.literals bits
    let (offset, last) := work.last.find number (states.literals.symbol != 0)
    let work ← { work with last }.sequence taken offset length
    if count = 0 then .ok (bits, work)
    else
      let (literals, bits) := codes.literals.step states.literals bits
      let (lengths, bits) := codes.lengths.step states.lengths bits
      let (offsets, bits) := codes.offsets.step states.offsets bits
      runSequences codes count { literals, offsets, lengths } bits work

/-- Carries out all sequences between two places, which hold nothing else. -/
def readSequences (codes : SequenceCodes) (count : Nat) (data : ByteArray) (start stop : Nat)
    (work : Work) : Except FrameFault Work :=
  match BackBits.ofBytes? data start stop with
  | none => .error .corrupted
  | some bits => do
    let (literals, bits) := codes.literals.start bits
    let (offsets, bits) := codes.offsets.start bits
    let (lengths, bits) := codes.lengths.start bits
    let (bits, work) ← runSequences codes count { literals, offsets, lengths } bits work
    if bits.isEnd then .ok work else .error .corrupted

end TableGateway.Coding.Zstd
