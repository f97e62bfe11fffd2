import TableGateway.Decimal.Binary64

-- The shortest decimal that reads back as a given binary number, and of
-- those the nearest. All comparisons are between whole numbers.

namespace TableGateway.Decimal

/-! ## The interval that rounds to the number -/

/-- A positive fraction. -/
structure Fraction where
  top : Nat
  bottom : Nat
deriving Repr

/-- A whole number times a power of two. -/
def Fraction.ofScaled (n : Nat) (exponent : Int) : Fraction :=
  if exponent ≥ 0 then ⟨n * Nat.pow 2 exponent.toNat, 1⟩ else ⟨n, Nat.pow 2 (-exponent).toNat⟩

/-- The number, the two ends of the interval that rounds to it, and whether
the ends round to it too. Ends belong to an even magnitude. -/
structure Interval where
  value : Fraction
  low : Fraction
  high : Fraction
  closed : Bool
deriving Repr

/-- Halfway to each neighbour, in quarters of the last binary place. -/
def Interval.ofBinary (b : Binary) : Interval where
  value := .ofScaled (4 * b.magnitude) (b.exponent - 2)
  low := .ofScaled (4 * b.magnitude - (if b.closerBelow then 1 else 2)) (b.exponent - 2)
  high := .ofScaled (4 * b.magnitude + 2) (b.exponent - 2)
  closed := b.magnitude % 2 == 0

/-! ## Decimal grids -/

/-- Digits with a power of ten: `digits * 10 ^ scale`. -/
structure GridPoint where
  digits : Nat
  scale : Int
deriving Repr, DecidableEq

/-- The fraction that a decimal is. -/
def GridPoint.fraction (d : GridPoint) : Fraction :=
  if d.scale ≥ 0 then ⟨d.digits * Nat.pow 10 d.scale.toNat, 1⟩
  else ⟨d.digits, Nat.pow 10 (-d.scale).toNat⟩

/-- Less, across the two bottoms. -/
def Fraction.less (a b : Fraction) : Bool :=
  decide (a.top * b.bottom < b.top * a.bottom)

/-- A decimal that reads back as the number of the interval. -/
def Interval.holds (i : Interval) (d : GridPoint) : Bool :=
  let x := d.fraction
  if i.closed then !(x.less i.low) && !(i.high.less x) else i.low.less x && x.less i.high

/-- The distance of a decimal from the number, times both bottoms. -/
def Interval.distance (i : Interval) (d : GridPoint) : Nat :=
  let x := d.fraction
  let a := x.top * i.value.bottom
  let b := i.value.top * x.bottom
  if a ≥ b then a - b else b - a

/-- The point of the grid just below the number. -/
def Interval.below (i : Interval) (scale : Int) : GridPoint :=
  if scale ≥ 0 then ⟨i.value.top / (i.value.bottom * Nat.pow 10 scale.toNat), scale⟩
  else ⟨i.value.top * Nat.pow 10 (-scale).toNat / i.value.bottom, scale⟩

/-- The neighbour of the number on one grid that reads back as it. Of two, the
nearer one, and of two equally near, the one with an even last digit. -/
def Interval.onGrid (i : Interval) (scale : Int) : Option GridPoint :=
  let low := i.below scale
  let high : GridPoint := ⟨low.digits + 1, scale⟩
  match i.holds low, i.holds high with
  | true, true =>
    if i.distance low < i.distance high then some low
    else if i.distance high < i.distance low then some high
    else if low.digits % 2 = 0 then some low else some high
  | true, false => some low
  | false, true => some high
  | false, false => none

/-- The power of ten of the first digit of a fraction between the least and the
greatest binary number. -/
def leadingExponent (x : Fraction) : Int :=
  ((Nat.toDigits 10 (x.top * Nat.pow 10 400 / x.bottom)).length : Int) - 401

/-- Tries grids from coarse to fine. -/
def Interval.firstGrid (i : Interval) (leading : Int) : Nat → Nat → GridPoint
  | 0, count => i.below (leading - count + 1)
  | fuel + 1, count =>
    match i.onGrid (leading - count + 1) with
    | some d => d
    | none => i.firstGrid leading fuel (count + 1)

/-- The shortest decimal that reads back as a positive number. Seventeen digits
always do. -/
def shortest (b : Binary) : GridPoint :=
  let i := Interval.ofBinary b
  i.firstGrid (leadingExponent i.value) 17 1

/-- The digits without trailing zeros, and the power of ten of the first. -/
def GridPoint.normal (d : GridPoint) : List Char × Int :=
  let all := Nat.toDigits 10 d.digits
  let kept := (all.reverse.dropWhile (· == '0')).reverse
  (kept, d.scale + all.length - 1)

end TableGateway.Decimal
