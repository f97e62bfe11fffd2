import TableGateway.Coding.Output
import TableGateway.Coding.PrefixCode
import TableGateway.Coding.Steps

-- Deflated bytes: blocks of plain bytes, and blocks of bytes and of references
-- to what came before, both in prefix codes.

namespace TableGateway.Coding.Deflate

/-! ## Codes of a block -/

/-- The codes of a block: for bytes and lengths, and for distances. -/
structure Codes where
  symbols : PrefixCode
  distances : PrefixCode
deriving Repr

/-- The codes of blocks that bring no codes. -/
def fixedCodes : Codes where
  symbols := .ofLengths
    (List.replicate 144 8 ++ List.replicate 112 9 ++ List.replicate 24 7 ++ List.replicate 8 8)
  distances := .ofLengths (List.replicate 32 5)

/-- The order in which the lengths for the code of lengths are written. -/
def lengthOrder : List Nat :=
  [16, 17, 18, 0, 8, 7, 9, 6, 10, 5, 11, 4, 12, 3, 13, 2, 14, 1, 15]

/-- Numbers of so many bits each. -/
def readNumbers (width : Nat) : Nat → Bits → Except Stop (List Nat × Bits)
  | 0, bits => .ok ([], bits)
  | count + 1, bits => do
    let (n, bits) ← bits.take width
    let (ns, bits) ← readNumbers width count bits
    .ok (n :: ns, bits)

/-- The length that a symbol repeats, how often at least, and the bits that add to
it. -/
def repeated? (symbol : Nat) (read : List Nat) : Option (Nat × Nat × Nat) :=
  if symbol = 16 then read.head?.map fun last => (last, 3, 2)
  else if symbol = 17 then some (0, 3, 3)
  else some (0, 11, 7)

/-- Lengths in a code of their own, until there are as many as are due. `read` holds
the lengths so far, last one first. -/
def readLengths (code : PrefixCode) (due : Nat) : Nat → List Nat → Bits →
    Except Stop (List Nat × Bits)
  | 0, _, _ => .error .broken
  | fuel + 1, read, bits =>
    if read.length = due then .ok (read.reverse, bits)
    else if read.length > due then .error .broken
    else do
      let (symbol, bits) ← code.read bits
      if symbol < 16 then readLengths code due fuel (symbol :: read) bits
      else
        match repeated? symbol read with
        | none => .error .broken
        | some (length, least, width) => do
          let (more, bits) ← bits.take width
          readLengths code due fuel (List.replicate (least + more) length ++ read) bits

/-- A code may be used: it is complete, or it has one word at most. -/
def isUsable (lengths : List Nat) : Bool :=
  PrefixCode.isComplete lengths || (lengths.filter (· ≠ 0)).length ≤ 1

/-- The codes that a block brings. -/
def readCodes (bits : Bits) : Except Stop (Codes × Bits) := do
  let (symbolCount, bits) ← bits.take 5
  let (distanceCount, bits) ← bits.take 5
  let (lengthCount, bits) ← bits.take 4
  let symbolCount := symbolCount + 257
  let distanceCount := distanceCount + 1
  if symbolCount > 286 ∨ distanceCount > 30 then .error .broken
  else do
    let (widths, bits) ← readNumbers 3 (lengthCount + 4) bits
    let lengths := (List.range 19).map fun symbol =>
      ((lengthOrder.zip widths).lookup symbol).getD 0
    if !PrefixCode.isComplete lengths then .error .broken
    else do
      let due := symbolCount + distanceCount
      let (lengths, bits) ← readLengths (.ofLengths lengths) due (due + 1) [] bits
      let symbols := lengths.take symbolCount
      let distances := lengths.drop symbolCount
      if isUsable symbols && isUsable distances then
        .ok ({ symbols := .ofLengths symbols, distances := .ofLengths distances }, bits)
      else .error .broken

/-! ## References -/

/-- The least length of a symbol from 257 on, and the bits that add to it. The last
symbol stands for the greatest length alone. -/
def lengthSteps : Array (Nat × Nat) :=
  (Steps.ofWidths 3 (List.replicate 8 0 ++ [1, 2, 3, 4, 5].flatMap (List.replicate 4)) ++
    [(258, 0)]).toArray

/-- The least distance of a symbol, and the bits that add to it. -/
def distanceSteps : Array (Nat × Nat) :=
  (Steps.ofWidths 1 ([0, 0] ++ (List.range 14).flatMap (List.replicate 2))).toArray

/-- A length and a distance, after the symbol of the length. -/
def readReference (codes : Codes) (symbol : Nat) (bits : Bits) :
    Except Stop ((Nat × Nat) × Bits) := do
  let (length, bits) ← Steps.read lengthSteps (symbol - 257) bits
  let (index, bits) ← codes.distances.read bits
  let (distance, bits) ← Steps.read distanceSteps index bits
  .ok ((length, distance), bits)

/-! ## Blocks -/

/-- How far reading came: the output, and where it stopped, or where it goes on. -/
structure Progress where
  out : ByteArray
  rest : Except Stop Bits

/-- The symbol that ends a block. -/
def endSymbol : Nat := 256

/-- A block in codes. Every symbol takes a bit, so the number of bits is fuel enough. -/
def readCoded (codes : Codes) : Nat → Bits → ByteArray → Progress
  | 0, _, out => ⟨out, .error .broken⟩
  | fuel + 1, bits, out =>
    match codes.symbols.read bits with
    | .error stop => ⟨out, .error stop⟩
    | .ok (symbol, bits) =>
      if symbol < endSymbol then readCoded codes fuel bits (out.push (UInt8.ofNat symbol))
      else if symbol = endSymbol then ⟨out, .ok bits⟩
      else
        match readReference codes symbol bits with
        | .error stop => ⟨out, .error stop⟩
        | .ok ((length, distance), bits) =>
          readCoded codes fuel bits (Output.repeatBytes distance length out)

/-- The length of a block of plain bytes, which is written twice, once with all bits
turned. -/
def readPlainLength (bits : Bits) : Except Stop (Nat × Bits) := do
  let (length, bits) ← bits.aligned.take 16
  let (turned, bits) ← bits.take 16
  if length + turned = 0xFFFF then .ok (length, bits) else .error .broken

/-- A block of plain bytes. -/
def readPlain (bits : Bits) (out : ByteArray) : Progress :=
  match readPlainLength bits with
  | .error stop => ⟨out, .error stop⟩
  | .ok (length, bits) =>
    let start := bits.nextByte
    let count := min length (bits.data.size - start)
    let out := Output.copyInput bits.data start count out
    if count < length then ⟨out, .error .ended⟩ else ⟨out, .ok (.ofByte bits.data (start + length))⟩

/-- A block of a kind. -/
def readBlock (kind : Nat) (bits : Bits) (out : ByteArray) : Progress :=
  if kind = 0 then readPlain bits out
  else if kind = 1 then readCoded fixedCodes (bits.left + 1) bits out
  else if kind = 2 then
    match readCodes bits with
    | .error stop => ⟨out, .error stop⟩
    | .ok (codes, bits) => readCoded codes (bits.left + 1) bits out
  else ⟨out, .error .broken⟩

/-- The head of a block: whether it is the last one, and its kind. -/
def readHead (bits : Bits) : Except Stop ((Bool × Nat) × Bits) := do
  let (last, bits) ← bits.read
  let (kind, bits) ← bits.take 2
  .ok ((last == 1, kind), bits)

/-- Blocks up to the last one. Every block takes three bits at least, so the number of
bits is fuel enough. -/
def readBlocks : Nat → Bits → ByteArray → Progress
  | 0, _, out => ⟨out, .error .broken⟩
  | fuel + 1, bits, out =>
    match readHead bits with
    | .error stop => ⟨out, .error stop⟩
    | .ok ((isLast, kind), bits) =>
      let progress := readBlock kind bits out
      match progress.rest with
      | .error _ => progress
      | .ok bits => if isLast then progress else readBlocks fuel bits progress.out

/-- What deflated bytes decode to, from some byte on. -/
def read (data : ByteArray) (start : Nat) : Progress :=
  let bits := Bits.ofByte data start
  readBlocks (bits.left + 1) bits .empty

end TableGateway.Coding.Deflate
