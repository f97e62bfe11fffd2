-- Numbers of sixty-four bits in binary floating point, taken apart: a sign,
-- and a whole number times a power of two.

namespace TableGateway.Decimal

/-- A finite number in binary: a whole number times a power of two, and
whether a minus stands in front. -/
structure Binary where
  negative : Bool
  magnitude : Nat
  exponent : Int
deriving Repr, DecidableEq

/-- The parts of a number from its sixty-four bits. Infinities and not-a-number
have none. -/
def binary? (bits : UInt64) : Option Binary :=
  let n : Nat := bits.toNat
  let negative := decide (n / Nat.pow 2 63 = 1)
  let field : Nat := n / Nat.pow 2 52 % Nat.pow 2 11
  let fraction : Nat := n % Nat.pow 2 52
  if field = 2047 then none
  else if field = 0 then some ⟨negative, fraction, -1074⟩
  else some ⟨negative, Nat.pow 2 52 + fraction, field - 1075⟩

/-- The number is a whole power of two above the least one of its kind, so the
number below it is nearer than the number above. -/
def Binary.closerBelow (b : Binary) : Bool :=
  b.magnitude == Nat.pow 2 52 && decide (b.exponent > -1074)

end TableGateway.Decimal
