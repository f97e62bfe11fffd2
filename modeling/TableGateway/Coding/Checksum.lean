-- Sums by which changes of bytes are found.

namespace TableGateway.Coding

/-! ## Remainders of a polynomial -/

/-- Takes a bit out of a remainder. -/
def crcStep (n : UInt32) : UInt32 :=
  if n % 2 = 1 then (n >>> 1) ^^^ 0xEDB88320 else n >>> 1

/-- Takes so many bits out of a remainder. -/
def crcSteps : Nat → UInt32 → UInt32
  | 0, n => n
  | count + 1, n => crcSteps count (crcStep n)

/-- The remainders of all bytes. -/
def crcTable : Array UInt32 :=
  (Array.range 256).map fun n => crcSteps 8 (UInt32.ofNat n)

/-- Takes a byte into a remainder. -/
def crcByte (n : UInt32) (b : UInt8) : UInt32 :=
  crcTable.getD ((n ^^^ b.toUInt32) % 256).toNat 0 ^^^ (n >>> 8)

/-- The remainder of bytes, of thirty-two bits. -/
def crc32 (data : ByteArray) : UInt32 :=
  ~~~ (data.foldl crcByte 0xFFFFFFFF)

/-! ## Sums within a prime -/

/-- The prime. -/
def adlerPrime : Nat := 65521

/-- Takes a byte into a sum and the sum of sums. -/
def adlerByte (sums : Nat × Nat) (b : UInt8) : Nat × Nat :=
  let first := (sums.1 + b.toNat) % adlerPrime
  (first, (sums.2 + first) % adlerPrime)

/-- The sum of bytes and the sum of sums, in one number. -/
def adler32 (data : ByteArray) : Nat :=
  let sums := data.foldl adlerByte (1, 0)
  sums.2 * 65536 + sums.1

end TableGateway.Coding
