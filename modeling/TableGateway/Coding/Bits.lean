-- Bits of a byte sequence, read one after another. The lowest bit of a byte
-- comes first.

namespace TableGateway.Coding

/-- Why reading stops before its end: there are no more bytes, or those that are
there make no sense. -/
inductive Stop where
  | ended
  | broken
deriving Repr, DecidableEq

/-- Bytes with the place of the next bit. -/
structure Bits where
  data : ByteArray
  next : Nat := 0

namespace Bits

/-- The byte at a place. There are zeros after the end. -/
def byteAt (data : ByteArray) (i : Nat) : UInt8 :=
  if h : i < data.size then data[i] else 0

/-- The number of bits that are left. -/
def left (bits : Bits) : Nat :=
  bits.data.size * 8 - bits.next

/-- The bits from some byte on. -/
def ofByte (data : ByteArray) (start : Nat) : Bits :=
  { data, next := start * 8 }

/-- The bit at a place. -/
def bitAt (data : ByteArray) (i : Nat) : Nat :=
  ((byteAt data (i / 8)).toNat >>> (i % 8)) % 2

/-- The number that so many bits make from a place on, lowest bit first. -/
def numberAt (data : ByteArray) (i : Nat) : Nat → Nat
  | 0 => 0
  | count + 1 => bitAt data i + 2 * numberAt data (i + 1) count

/-- The number that so many whole bytes from a place on make, lowest byte first. -/
def bytesAt (data : ByteArray) (start : Nat) : Nat → Nat
  | 0 => 0
  | count + 1 => (byteAt data start).toNat + 256 * bytesAt data (start + 1) count

/-- The next bit. -/
def read (bits : Bits) : Except Stop (Nat × Bits) :=
  if bits.left = 0 then .error .ended
  else .ok (bitAt bits.data bits.next, { bits with next := bits.next + 1 })

/-- The number that the next bits make, lowest bit first. -/
def take (bits : Bits) (count : Nat) : Except Stop (Nat × Bits) :=
  if bits.left < count then .error .ended
  else .ok (numberAt bits.data bits.next count, { bits with next := bits.next + count })

/-- The first byte that has no bit read of it. -/
def nextByte (bits : Bits) : Nat :=
  (bits.next + 7) / 8

/-- The bits from the next whole byte on. -/
def aligned (bits : Bits) : Bits :=
  ofByte bits.data bits.nextByte

end Bits

end TableGateway.Coding
