import TableGateway.Coding.Fault
import TableGateway.Coding.Output
import TableGateway.Coding.Zstd.WeightCode

-- The literals of a block: plain, one byte many times, or in a code that the block
-- brings or that was there before.

namespace TableGateway.Coding.Zstd

/-- Literals, the place after them, and the code that stays for later blocks. -/
structure Literals where
  bytes : ByteArray
  next : Nat
  code : Option WeightCode

namespace Literals

/-- The bounds that literals keep: the most bytes of a block, and how many the output
has room for. -/
structure Bounds where
  maxBlock : Nat
  room : Nat
deriving Repr, DecidableEq

/-- Refuses a number of literals that is out of bounds. -/
def Bounds.check (bounds : Bounds) (count : Nat) : Except FrameFault Unit :=
  if bounds.maxBlock < count then .error .corrupted
  else if bounds.room < count then .error .noRoom
  else .ok ()

/-- The number of literals that are not in a code, and the place after the head. The
first byte tells the form of the head. -/
def plainHead (data : ByteArray) (start : Nat) : Nat × Nat :=
  let form := (Bits.byteAt data start).toNat / 4 % 4
  if form = 1 then (Bits.bytesAt data start 2 / 16, start + 2)
  else if form = 3 then (Bits.bytesAt data start 3 / 16, start + 3)
  else (Bits.bytesAt data start 1 / 8, start + 1)

/-- The head of literals in a code: their number, the number of bytes that they are
written in, and the place after it. -/
def codedHead (data : ByteArray) (start : Nat) : Nat × Nat × Nat :=
  let form := (Bits.byteAt data start).toNat / 4 % 4
  let (width, size) := if form < 2 then (10, 3) else if form = 2 then (14, 4) else (18, 5)
  let n := Bits.bytesAt data start size / 16
  (n % Nat.pow 2 width, n / Nat.pow 2 width, start + size)

/-- Plain literals. -/
def readPlain (data : ByteArray) (start stop : Nat) (bounds : Bounds)
    (code : Option WeightCode) : Except FrameFault Literals := do
  let (count, place) := plainHead data start
  if stop < place then .error .corrupted
  else do
    bounds.check count
    if stop < place + count then .error .corrupted
    else .ok { bytes := data.extract place (place + count), next := place + count, code }

/-- One literal many times. -/
def readRepeated (data : ByteArray) (start stop : Nat) (bounds : Bounds)
    (code : Option WeightCode) : Except FrameFault Literals := do
  let (count, place) := plainHead data start
  if stop < place + 1 then .error .corrupted
  else do
    bounds.check count
    let bytes := Output.copies (Bits.byteAt data place) count .empty
    .ok { bytes, next := place + 1, code }

/-- The least number of literals in four streams. -/
def minStreamed : Nat := 6

/-- The least number of bytes of a block with literals in a code. -/
def minCoded : Nat := 5

/-- Literals in a code. The code is the one before, or else stands in front of them. -/
def readCoded (data : ByteArray) (start stop : Nat) (bounds : Bounds)
    (before : Option WeightCode) : Except FrameFault Literals := do
  let isSingle := (Bits.byteAt data start).toNat / 4 % 4 == 0
  let (count, size, place) := codedHead data start
  let next := place + size
  if stop < start + minCoded ∨ bounds.maxBlock < count then .error .corrupted
  else if !isSingle ∧ count < minStreamed then .error .fewLiterals
  else if stop < next then .error .corrupted
  else if bounds.room < count then .error .noRoom
  else
    let found := match before with
      | some code => some (code, place)
      | none => WeightCode.read data place next
    let bytes := found.bind fun (code, place) =>
      if isSingle then code.readStream data place next count .empty
      else code.readStreams data place next count
    match found, bytes with
    | some (code, _), some bytes => .ok { bytes, next, code := some code }
    | _, _ => .error .corrupted

/-- The literals at the start of a block. -/
def read (data : ByteArray) (start stop : Nat) (bounds : Bounds) (code : Option WeightCode) :
    Except FrameFault Literals :=
  let kind := (Bits.byteAt data start).toNat % 4
  if stop < start + 2 then .error .corrupted
  else if kind = 0 then readPlain data start stop bounds code
  else if kind = 1 then readRepeated data start stop bounds code
  else if kind = 2 then readCoded data start stop bounds none
  else if code.isNone then .error .missingTable
  else readCoded data start stop bounds code

end Literals

end TableGateway.Coding.Zstd
