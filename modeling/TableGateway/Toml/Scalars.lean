import TableGateway.Text.Calendar
import TableGateway.Text.Numeral
import TableGateway.Toml.Strings
import TableGateway.Toml.Value

-- Numbers and points in time of TOML texts.

namespace TableGateway.Toml

/-! ## Digits -/

/-- Further digits. An underscore may stand between two digits. -/
def moreDigits (isDigit : Char → Bool) : Reading (List Char)
  | '_' :: c :: rest =>
    if isDigit c then (moreDigits isDigit rest).map fun read => (c :: read.1, read.2) else none
  | '_' :: [] => none
  | c :: rest =>
    if isDigit c then (moreDigits isDigit rest).map fun read => (c :: read.1, read.2)
    else some ([], c :: rest)
  | [] => some ([], [])

/-- One or more digits. -/
def readDigits (isDigit : Char → Bool) : Reading (List Char)
  | c :: rest =>
    if isDigit c then (moreDigits isDigit rest).map fun read => (c :: read.1, read.2) else none
  | [] => none

/-- A sign, if there is one. -/
def readSign : List Char → List Char × List Char
  | '+' :: rest => (['+'], rest)
  | '-' :: rest => (['-'], rest)
  | cs => ([], cs)

/-- Decimal digits with a sign. A zero in front stands alone. -/
def readDecimal : Reading (List Char) := fun cs =>
  let (sign, rest) := readSign cs
  match rest with
  | '0' :: rest => some (sign ++ ['0'], rest)
  | rest => (readDigits Text.isDigit rest).map fun read => (sign ++ read.1, read.2)

/-! ## Whole numbers -/

/-- The digits of a base up to sixteen. -/
def isDigitOf (base : Nat) (c : Char) : Bool :=
  match hexValue? c with
  | some d => d < base
  | none => false

/-- A number that fits sixty-four bits with a sign. -/
def fitting (n : Int) : Option Int :=
  if Text.minInt64 ≤ n ∧ n ≤ Text.maxInt64 then some n else none

/-- A number in a base other than ten, after the mark of the base. -/
def readInBase (base : Nat) : Reading Value := fun cs => do
  let (digits, rest) ← readDigits (isDigitOf base) cs
  let values ← digits.mapM hexValue?
  let n ← fitting (values.foldl (fun n d => n * base + d) 0 : Nat)
  some (.integer n, rest)

/-- A whole number. -/
def readInteger : Reading Value
  | '0' :: 'x' :: rest => readInBase 16 rest
  | '0' :: 'o' :: rest => readInBase 8 rest
  | '0' :: 'b' :: rest => readInBase 2 rest
  | cs => do
    let (digits, rest) ← readDecimal cs
    let n ← Text.integer? digits
    let n ← fitting n
    some (.integer n, rest)

/-! ## Other numbers -/

/-- A point with digits. -/
def readFraction : Reading (List Char)
  | '.' :: rest => readDigits Text.isDigit rest
  | _ => none

/-- The exponent of a number. -/
def readExponent : Reading (List Char)
  | c :: rest =>
    if c = 'e' ∨ c = 'E' then
      let (sign, rest) := readSign rest
      (readDigits Text.isDigit rest).map fun read => (sign ++ read.1, read.2)
    else none
  | [] => none

/-- The least number that binary floating point has no finite number for: half a
step above the greatest one. -/
def leastInfinite : Nat := Nat.pow 2 1024 - Nat.pow 2 970

/-- The number `digits * 10 ^ exponent` is not below `leastInfinite`. -/
def isInfinite (digits : Nat) (exponent : Int) : Bool :=
  let leading := (Nat.toDigits 10 digits).length + exponent
  if digits = 0 ∨ leading < 308 then false
  else if leading > 310 then true
  else if exponent ≥ 0 then leastInfinite ≤ digits * Nat.pow 10 exponent.toNat
  else leastInfinite * Nat.pow 10 (-exponent).toNat ≤ digits

/-- Refuses a positive number that is too great. -/
def checkFinite (whole fraction exponent : List Char) : Option Unit :=
  let (sign, digits) := readSign whole
  let shift := (Text.integer? exponent).getD 0 - fraction.length
  if sign ≠ ['-'] ∧ isInfinite (Text.digitsValue (digits ++ fraction)) shift then none
  else some ()

/-- A number with a fraction, an exponent or both. -/
def readFinite : Reading Value := fun cs => do
  let (whole, rest) ← readDecimal cs
  let parts ← match readFraction rest with
    | some (fraction, rest) =>
      match readExponent rest with
      | some (exponent, rest) => some (fraction, exponent, rest)
      | none => some (fraction, [], rest)
    | none => (readExponent rest).map fun read => ([], read)
  let (fraction, exponent, rest) := parts
  checkFinite whole fraction exponent
  some (.float (String.ofList (cs.take (cs.length - rest.length))), rest)

/-- Infinity or not-a-number, with or without a sign. -/
def readSpecial : Reading Value := fun cs =>
  let (sign, rest) := readSign cs
  match rest with
  | 'i' :: 'n' :: 'f' :: rest => some (.float (String.ofList (sign ++ ['i', 'n', 'f'])), rest)
  | 'n' :: 'a' :: 'n' :: rest => some (.float (String.ofList (sign ++ ['n', 'a', 'n'])), rest)
  | _ => none

/-! ## Points in time -/

/-- So many digits, with a number between two bounds. -/
def readNumber (count low high : Nat) : Reading Nat := fun cs =>
  if cs.length < count then none
  else
    match Text.natural? (cs.take count) with
    | some n => if low ≤ n ∧ n ≤ high then some (n, cs.drop count) else none
    | none => none

/-- The text after a character. -/
def after? (c : Char) : List Char → Option (List Char)
  | d :: rest => if d = c then some rest else none
  | [] => none

/-- The text after a date. -/
def afterDate? (cs : List Char) : Option (List Char) := do
  let (year, rest) ← readNumber 4 0 9999 cs
  let (month, rest) ← readNumber 2 1 12 (← after? '-' rest)
  let (_, rest) ← readNumber 2 1 (Text.daysOf year month) (← after? '-' rest)
  some rest

/-- The text after a fraction of a second, if there is one. -/
def afterSecond (cs : List Char) : List Char :=
  match cs with
  | '.' :: c :: rest => if Text.isDigit c then rest.dropWhile Text.isDigit else cs
  | _ => cs

/-- The text after a time of day. -/
def afterTime? (cs : List Char) : Option (List Char) := do
  let (_, rest) ← readNumber 2 0 23 cs
  let (_, rest) ← readNumber 2 0 59 (← after? ':' rest)
  let (_, rest) ← readNumber 2 0 60 (← after? ':' rest)
  some (afterSecond rest)

/-- The text after an offset from universal time. -/
def afterOffset? : List Char → Option (List Char)
  | c :: rest =>
    if c = 'Z' ∨ c = 'z' then some rest
    else if c = '+' ∨ c = '-' then do
      let (_, rest) ← readNumber 2 0 23 rest
      let (_, rest) ← readNumber 2 0 59 (← after? ':' rest)
      some rest
    else none
  | [] => none

/-- The text after the time that may follow a date. -/
def afterDatedTime (cs : List Char) : List Char :=
  match cs with
  | c :: rest =>
    if c = 'T' ∨ c = 't' ∨ c = ' ' then
      match afterTime? rest with
      | some rest => (afterOffset? rest).getD rest
      | none => cs
    else cs
  | [] => []

/-- The text after a date, a time of day, or both. -/
def afterMoment? (cs : List Char) : Option (List Char) :=
  match afterDate? cs with
  | some rest => some (afterDatedTime rest)
  | none => afterTime? cs

/-- A point in time. -/
def readMoment : Reading Value := fun cs =>
  (afterMoment? cs).map fun rest =>
    (.moment (String.ofList (cs.take (cs.length - rest.length))), rest)

/-! ## Numbers and points in time -/

/-- A value that starts with a digit or a sign. -/
def readNumeral : Reading Value := fun cs =>
  readMoment cs <|> readFinite cs <|> readSpecial cs <|> readInteger cs

end TableGateway.Toml
