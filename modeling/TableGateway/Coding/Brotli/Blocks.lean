import TableGateway.Coding.Brotli.SymbolCode
import TableGateway.Coding.Steps

-- The types of symbols. Symbols of one kind come in blocks, each of a type, and the
-- type tells which codes are meant.

namespace TableGateway.Coding.Brotli

/-- How the types of a kind of symbols go on: how many types there are, the codes for the
types and the lengths of blocks, the type of the block and of the one before, and how
many symbols are left in it. -/
structure Blocks where
  types : Nat
  typeCode : SymbolCode
  lengthCode : SymbolCode
  current : Nat
  previous : Nat
  left : Nat

namespace Blocks

/-- A small number: a bit for none, three bits for the number of bits, and those. -/
def readSmall (bits : Bits) : Except Stop (Nat × Bits) := do
  let (isSome, bits) ← bits.read
  if isSome = 0 then .ok (0, bits)
  else
    let (width, bits) ← bits.take 3
    let (more, bits) ← bits.take width
    .ok (Nat.pow 2 width + more, bits)

/-- The least length for each symbol, and the bits that add to it. -/
def lengthSteps : Array (Nat × Nat) :=
  (Steps.ofWidths 1 [2, 2, 2, 2, 3, 3, 3, 3, 4, 4, 4, 4, 5, 5, 5, 5, 6, 6, 7, 8, 9, 10, 11, 12, 13,
    24]).toArray

/-- The length of a block. -/
def readLength (code : SymbolCode) (bits : Bits) : Except Stop (Nat × Bits) := do
  let (symbol, bits) ← code.read bits
  Steps.read lengthSteps symbol bits

/-- The length of the only block, which is greater than there are symbols. -/
def whole : Nat := Nat.pow 2 24

/-- Reads how the types of a kind of symbols go on. -/
def read (bits : Bits) : Except Stop (Blocks × Bits) := do
  let (more, bits) ← readSmall bits
  let types := more + 1
  if types = 1 then
    .ok ({ types, typeCode := .only 0, lengthCode := .only 0, current := 0, previous := 1,
           left := whole }, bits)
  else
    let (typeCode, bits) ← SymbolCode.readCode (types + 2) bits
    let (lengthCode, bits) ← SymbolCode.readCode lengthSteps.size bits
    let (left, bits) ← readLength lengthCode bits
    .ok ({ types, typeCode, lengthCode, current := 0, previous := 1, left }, bits)

/-- The type that a symbol means: the one before, the next one, or one by its number. -/
def typeOf (blocks : Blocks) (symbol : Nat) : Nat :=
  let type :=
    if symbol = 0 then blocks.previous
    else if symbol = 1 then blocks.current + 1
    else symbol - 2
  if blocks.types ≤ type then type - blocks.types else type

/-- Takes a symbol out of the block, after which the next block begins if there are no
more in it. -/
def next (blocks : Blocks) (bits : Bits) : Except Stop (Blocks × Bits) := do
  if 0 < blocks.left ∨ blocks.types = 1 then
    .ok ({ blocks with left := blocks.left - 1 }, bits)
  else
    let (symbol, bits) ← blocks.typeCode.read bits
    let (length, bits) ← readLength blocks.lengthCode bits
    .ok ({ blocks with
      current := blocks.typeOf symbol, previous := blocks.current, left := length - 1 }, bits)

end Blocks

end TableGateway.Coding.Brotli
