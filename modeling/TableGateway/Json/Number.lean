import TableGateway.Decimal.Shortest

-- The numbers of JSON texts: whole numbers that fit sixty-four bits, signed
-- or not, and all others in binary floating point.

namespace TableGateway.Json

/-! ## Numbers -/

/-- A number is a whole number, or a binary floating point number given by its
sixty-four bits. -/
inductive Number where
  | whole (n : Int)
  | float (bits : UInt64)
deriving Repr, DecidableEq, Inhabited

/-- The least whole number that stays whole. -/
def Number.leastWhole : Int := -9223372036854775808

/-- The greatest whole number that stays whole. -/
def Number.greatestWhole : Int := 18446744073709551615

/-! ## Writing -/

/-- A whole number in decimal. -/
def wholeText (n : Int) : List Char :=
  if n < 0 then '-' :: Nat.toDigits 10 n.natAbs else Nat.toDigits 10 n.toNat

/-- Digits with a point after the first `count` of them, and a zero where no
digit is left. -/
def pointed (digits : List Char) (count : Nat) : List Char :=
  let whole := digits.take count ++ List.replicate (count - digits.length) '0'
  let fraction := digits.drop count
  whole ++ '.' :: (if fraction.isEmpty then ['0'] else fraction)

/-- The exponent part: a sign always, and no leading zero. -/
def exponentText (e : Int) : List Char :=
  'e' :: (if e < 0 then '-' else '+') :: Nat.toDigits 10 e.natAbs

/-- Plain notation for a first digit at `10 ^ -5` up to `10 ^ 15`, and
scientific notation outside. -/
def decimalText (digits : List Char) (leading : Int) : List Char :=
  if leading < -5 ∨ leading > 15 then
    match digits with
    | [] => exponentText leading
    | [d] => d :: exponentText leading
    | d :: rest => d :: '.' :: rest ++ exponentText leading
  else if leading < 0 then
    '0' :: '.' :: List.replicate ((-leading).toNat - 1) '0' ++ digits
  else pointed digits (leading.toNat + 1)

/-- A floating point number with the fewest digits that read back. A number
that is not finite has no JSON text and is written as `null`. -/
def floatText (bits : UInt64) : List Char :=
  match Decimal.binary? bits with
  | none => ['n', 'u', 'l', 'l']
  | some b =>
    let sign := if b.negative then ['-'] else []
    if b.magnitude = 0 then sign ++ ['0', '.', '0']
    else
      let d := (Decimal.shortest b).normal
      sign ++ decimalText d.1 d.2

/-- The text of a number. -/
def Number.chars : Number → List Char
  | .whole n => wholeText n
  | .float bits => floatText bits

/-- The text of a number. -/
def Number.text (n : Number) : String :=
  String.ofList n.chars

end TableGateway.Json
