import TableGateway.Coding.Bits

-- Bits that are read from the last one on. The highest bit of the last byte that is
-- set only marks the end.

namespace TableGateway.Coding

/-- Bytes with the place of their first bit, and how many bits after it are still to
be read. It is less than zero once more were read than there are. -/
structure BackBits where
  data : ByteArray
  first : Nat
  left : Int

namespace BackBits

/-- The bits of the bytes between two places, without the mark. -/
def ofBytes? (data : ByteArray) (start stop : Nat) : Option BackBits :=
  let last := (Bits.byteAt data (stop - 1)).toNat
  if stop ≤ start ∨ last = 0 then none
  else some { data, first := start * 8, left := (stop - start) * 8 - 8 + Nat.log2 last }

/-- The number of the next bits, highest bit first. Bits that are not there are zeros. -/
def peek (bits : BackBits) (count : Nat) : Nat :=
  let found := min count bits.left.toNat
  let start := bits.first + (bits.left.toNat - found)
  Bits.numberAt bits.data start found * Nat.pow 2 (count - found)

/-- The bits after so many. -/
def drop (bits : BackBits) (count : Nat) : BackBits :=
  { bits with left := bits.left - count }

/-- The number of the next bits, highest bit first. -/
def take (bits : BackBits) (count : Nat) : Nat × BackBits :=
  (bits.peek count, bits.drop count)

/-- All bits were read, and no more. -/
def isEnd (bits : BackBits) : Bool :=
  bits.left == 0

/-- More bits were read than there are. -/
def isOver (bits : BackBits) : Bool :=
  bits.left < 0

end BackBits

end TableGateway.Coding
