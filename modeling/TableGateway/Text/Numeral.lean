-- Decimal numerals: digits only, with one sign in front where a sign is
-- allowed, and a range that the number has to fit.

namespace TableGateway.Text

/-! ## Digits -/

/-- The digits `0` to `9`. -/
def isDigit (c : Char) : Bool :=
  0x30 ≤ c.toNat && c.toNat ≤ 0x39

/-- The number that digits write, first digit first. -/
def digitsValue (cs : List Char) : Nat :=
  cs.foldl (fun n c => n * 10 + (c.toNat - 0x30)) 0

/-- The number of a text that is one or more digits and nothing else. -/
def natural? (cs : List Char) : Option Nat :=
  if cs ≠ [] ∧ cs.all isDigit then some (digitsValue cs) else none

/-- The number of a text that is digits with at most one sign in front. -/
def integer? : List Char → Option Int
  | '-' :: cs => (natural? cs).map fun n => -(n : Int)
  | '+' :: cs => (natural? cs).map fun n => (n : Int)
  | cs => (natural? cs).map fun n => (n : Int)

/-! ## Sixty-four bits -/

/-- The greatest signed number of sixty-four bits. -/
def maxInt64 : Int := 9223372036854775807

/-- The least signed number of sixty-four bits. -/
def minInt64 : Int := -9223372036854775808

/-- The signed number of sixty-four bits that a text writes. -/
def int64? (s : String) : Option Int :=
  (integer? s.toList).filter fun n => minInt64 ≤ n ∧ n ≤ maxInt64

/-- The number itself, or the end of the signed range that it lies beyond. -/
def saturated (n : Int) : Int :=
  if n > maxInt64 then maxInt64 else if n < minInt64 then minInt64 else n

theorem int64?_bounds {s : String} {n : Int} (h : int64? s = some n) :
    minInt64 ≤ n ∧ n ≤ maxInt64 := by
  simp [int64?, Option.filter_eq_some_iff] at h
  exact h.2

end TableGateway.Text
