-- Whole roots of whole numbers, and primes. The constants of hash functions
-- are the first bits of the roots of primes.

namespace TableGateway.Digest

/-- The greatest number whose power is at most `n`, from the bits below `bits`
on down. -/
def rootBelow (power n : Nat) : Nat → Nat → Nat
  | 0, root => root
  | bits + 1, root =>
    let next := root + Nat.pow 2 bits
    rootBelow power n bits (if Nat.pow next power ≤ n then next else root)

/-- The first `bits` bits after the point of the root of a number. -/
def rootFraction (power bits n : Nat) : Nat :=
  rootBelow power (n * Nat.pow 2 (power * bits)) (bits + 8) 0 % Nat.pow 2 bits

/-- A number above one that no smaller one above one divides. -/
def isPrime (n : Nat) : Bool :=
  n ≥ 2 && (List.range n).all fun d => d < 2 || n % d != 0

/-- The primes below four hundred and ten, of which there are eighty. -/
def primes : List Nat :=
  (List.range 410).filter isPrime

end TableGateway.Digest
