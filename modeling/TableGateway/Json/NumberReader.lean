import TableGateway.Json.ReadError
import TableGateway.Text.Bytes

-- Reading the numbers of JSON texts. A numeral with a point or an exponent,
-- or one too large for sixty-four bits, is a floating point number. Its value
-- comes from one multiplication or division of at most sixty-four bits of
-- digits by a power of ten, so its last bit may differ from the nearest one.

namespace TableGateway.Json

/-- A part of a text, and the rest after it. -/
abbrev Reading (α : Type) := List UInt8 → Except Stop (α × List UInt8)

/-! ## Digits -/

/-- The bytes of the digits. -/
def isDigitByte (b : UInt8) : Bool :=
  0x30 ≤ b && b ≤ 0x39

/-- The digits at the start of a text. -/
def digitsOf (text : List UInt8) : List Nat :=
  (text.takeWhile isDigitByte).map fun b => b.toNat - 0x30

/-- What comes after the digits at the start of a text. -/
def afterDigits (text : List UInt8) : List UInt8 :=
  text.dropWhile isDigitByte

/-- Adds digits to a number while it stays within a bound. Gives the number and
the digits that are left over. -/
def gather (bound : Nat) : Nat → List Nat → Nat × List Nat
  | n, [] => (n, [])
  | n, d :: rest => if n * 10 + d > bound then (n, d :: rest) else gather bound (n * 10 + d) rest

/-- The greatest number of sixty-four bits. -/
def maxUInt64 : Nat := 18446744073709551615

/-- The greatest signed number of thirty-two bits. -/
def maxInt32 : Nat := 2147483647

/-! ## Scaling -/

/-- A power of ten in floating point. -/
def powerOfTen (n : Nat) : Float :=
  Float.ofScientific 1 false n

/-- Divides by a power of ten, `10 ^ 308` at a time while more than that is
left. Zero stays zero. -/
def scaledDown (f : Float) (n : Nat) : Float :=
  if n ≤ 308 then f / powerOfTen n
  else if f == 0 then f
  else scaledDown (f / powerOfTen 308) (n - 308)
termination_by n
decreasing_by omega

/-- Digits times a power of ten. A number that is not finite is out of range. -/
def scaled (digits : Nat) (exponent : Int) : Option Float :=
  let f := (UInt64.ofNat digits).toFloat
  if exponent < 0 then some (scaledDown f (-exponent).toNat)
  else if exponent > 308 then if digits = 0 then some f else none
  else
    let g := f * powerOfTen exponent.toNat
    if g.isInf then none else some g

/-- A floating point number with its sign. -/
def signed (negative : Bool) (f : Float) : Number :=
  .float (if negative then -f else f).toBits

/-! ## Numerals -/

/-- Digits and exponent, with the rest of the text. -/
def finishFloat (negative : Bool) (digits : Nat) (exponent : Int) : Reading Number :=
  fun rest =>
    match scaled digits exponent with
    | some f => .ok (signed negative f, rest)
    | none => .error ⟨.numberOutOfRange, rest.length⟩

/-- The digits of the exponent. One that needs more than thirty-two bits makes
the number zero or puts it out of range, just after the digit that is too much. -/
def readExponentDigits (negative down : Bool) (digits : Nat) (exponent : Int) : Reading Number
  | [] => .error ⟨.valueEnds, 0⟩
  | b :: text =>
    if isDigitByte b then
      let rest := afterDigits (b :: text)
      match gather maxInt32 0 (digitsOf (b :: text)) with
      | (n, []) => finishFloat negative digits (if down then exponent - n else exponent + n) rest
      | (_, _ :: leftOver) =>
        if digits ≠ 0 ∧ down = false then
          .error ⟨.numberOutOfRange, leftOver.length + rest.length⟩
        else .ok (signed negative 0, rest)
    else .error ⟨.invalidNumber, text.length⟩

/-- The exponent after its letter: a sign, if there is one, and digits. -/
def readExponent (negative : Bool) (digits : Nat) (exponent : Int) : Reading Number
  | [] => .error ⟨.valueEnds, 0⟩
  | b :: rest =>
    if b = Text.byte '+' then readExponentDigits negative false digits exponent rest
    else if b = Text.byte '-' then readExponentDigits negative true digits exponent rest
    else readExponentDigits negative false digits exponent (b :: rest)

/-- The letter of an exponent. -/
def isExponentMark (b : UInt8) : Bool :=
  b == Text.byte 'e' || b == Text.byte 'E'

/-- An exponent, if there is one. -/
def readScale (negative : Bool) (digits : Nat) (exponent : Int) : Reading Number
  | [] => finishFloat negative digits exponent []
  | b :: rest =>
    if isExponentMark b then readExponent negative digits exponent rest
    else finishFloat negative digits exponent (b :: rest)

/-- The fraction after its point. -/
def readFraction (negative : Bool) (digits : Nat) (exponent : Int) : Reading Number
  | [] => .error ⟨.valueEnds, 0⟩
  | b :: text =>
    if isDigitByte b then
      let fraction := digitsOf (b :: text)
      let (all, leftOver) := gather maxUInt64 digits fraction
      let taken : Int := fraction.length - leftOver.length
      readScale negative all (exponent - taken) (afterDigits (b :: text))
    else .error ⟨.invalidNumber, text.length⟩

/-- A whole number. A minus goes with numbers down to the least signed one of
sixty-four bits, and `-0` keeps its sign as a floating point number. -/
def wholeOrFloat (negative : Bool) (digits : Nat) : Number :=
  if negative then
    if digits = 0 ∨ digits > 9223372036854775808 then
      signed true (UInt64.ofNat digits).toFloat
    else .whole (-(digits : Int))
  else .whole digits

/-- What follows the digits of the whole part, of which `extra` did not fit. -/
def readAfterWhole (negative : Bool) (digits extra : Nat) : Reading Number
  | b :: rest =>
    if b = Text.byte '.' then readFraction negative digits extra rest
    else if isExponentMark b then readExponent negative digits extra rest
    else if extra = 0 then .ok (wholeOrFloat negative digits, b :: rest)
    else finishFloat negative digits extra (b :: rest)
  | [] =>
    if extra = 0 then .ok (wholeOrFloat negative digits, [])
    else finishFloat negative digits extra []

/-- A number after its minus, if it has one. A zero in front stands alone. -/
def readNumber (negative : Bool) : Reading Number
  | [] => .error ⟨.valueEnds, 0⟩
  | b :: text =>
    if b = Text.byte '0' then
      match text with
      | c :: rest =>
        if isDigitByte c then .error ⟨.invalidNumber, rest.length⟩
        else readAfterWhole negative 0 0 (c :: rest)
      | [] => readAfterWhole negative 0 0 []
    else if isDigitByte b then
      let (digits, leftOver) := gather maxUInt64 0 (digitsOf (b :: text))
      readAfterWhole negative digits leftOver.length (afterDigits (b :: text))
    else .error ⟨.invalidNumber, text.length⟩

end TableGateway.Json
