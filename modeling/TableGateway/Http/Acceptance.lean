import TableGateway.Http.Message
import TableGateway.Text.Blank
import TableGateway.Text.Numeral

-- Which codings of a response a client takes. Without a coding, or in one of
-- those that are offered, a response can be sent nearly always.

namespace TableGateway.Http

/-- A coding of an accept header, and whether it is welcome. -/
structure Choice where
  coding : String
  isWelcome : Bool
deriving Repr, DecidableEq

namespace Choice

/-! ## Weights -/

/-- A decimal number in parts: it is negative, its digits, how many of them are a
fraction, and its exponent. -/
structure Weight where
  isNegative : Bool
  digits : Nat
  fraction : Nat
  exponent : Int
deriving Repr, DecidableEq

/-- The digits at the start of a text, and what follows them. -/
def digitsFirst (cs : List Char) : List Char × List Char :=
  (cs.takeWhile Text.isDigit, cs.dropWhile Text.isDigit)

/-- The exponent that a text writes. An empty text writes none. -/
def exponent? : List Char → Option Int
  | [] => some 0
  | c :: rest => if c = 'e' ∨ c = 'E' then Text.integer? rest else none

/-- The number that a text writes, with a point and an exponent or without. -/
def Weight.ofText? (cs : List Char) : Option Weight := do
  let unsigned := if cs.head? = some '-' ∨ cs.head? = some '+' then cs.drop 1 else cs
  let (whole, rest) := digitsFirst unsigned
  let (fraction, rest) := if rest.head? = some '.' then digitsFirst (rest.drop 1) else ([], rest)
  if whole = [] ∧ fraction = [] then none
  else
    some {
      isNegative := cs.head? = some '-'
      digits := Text.digitsValue (whole ++ fraction)
      fraction := fraction.length
      exponent := ← exponent? rest }

/-- The number in thousandths, as a fraction of two whole numbers, without its
sign. -/
def Weight.thousandths (weight : Weight) : Nat × Nat :=
  let shift := weight.exponent - weight.fraction + 3
  if shift < 0 then (weight.digits, Nat.pow 10 shift.natAbs)
  else (weight.digits * Nat.pow 10 shift.natAbs, 1)

/-- The number lies between zero and one. -/
def Weight.isInRange (weight : Weight) : Bool :=
  let (n, unit) := weight.thousandths
  (!weight.isNegative || n == 0) && n ≤ 1000 * unit

/-- The number is a thousandth at least. Less than that counts as zero. -/
def Weight.isPositive (weight : Weight) : Bool :=
  let (n, unit) := weight.thousandths
  unit ≤ n

/-- A weight is written with so many characters at most. -/
def maxWeightLength : Nat := 5

/-! ## Choices -/

/-- The choice of one item of an accept header. An item with a weight that makes
no sense is none. -/
def ofItem? (item : String) : Option Choice :=
  match Text.cutAtLast ';' item with
  | none => some ⟨item, true⟩
  | some (coding, weight) =>
    match (Text.trim weight).toList with
    | name :: '=' :: value =>
      if name = 'q' ∨ name = 'Q' then
        if value.length > maxWeightLength then none
        else do
          let weight ← Weight.ofText? value
          if weight.isInRange then some ⟨Text.trim coding, weight.isPositive⟩ else none
      else some ⟨item, true⟩
    | _ :: _ :: _ => some ⟨item, true⟩
    | _ => none

/-- The choices of the values of accept headers. -/
def ofValues (values : List String) : List Choice :=
  let items := (values.flatMap (Text.pieces ',')).map Text.trim
  (items.filter (· ≠ "")).filterMap ofItem?

end Choice

namespace Message

/-- The header that tells which codings a client takes. -/
def acceptName : String := "accept-encoding"

/-- The codings that are offered. -/
def offered : List String :=
  ["br", "gzip", "deflate", "zstd"]

/-- What a client says of responses without a coding: a name for them, or a star
for all that is not named. -/
def plainCodings : List String :=
  ["identity", "*"]

/-- The choices of a client. A header that cannot be read as text takes all of them
back. -/
def choices (message : Message) : List Choice :=
  let values := message.headerValues acceptName
  if values.all fun value => value.toList.all isPlain then Choice.ofValues values else []

/-- There is a form in which the client takes a response. -/
def isServable (message : Message) : Bool :=
  let isNamed (names : List String) (choice : Choice) : Bool :=
    names.any fun name => Text.sameLetters name choice.coding
  let plain := message.choices.filter (isNamed plainCodings)
  plain.isEmpty || plain.any Choice.isWelcome ||
    message.choices.any fun choice => choice.isWelcome && isNamed offered choice

end Message

/-- The response to a client that takes no form of a response. -/
def Response.notAcceptable : Response where
  status := 406
  headers := [("vary", "Accept-Encoding")]
  body := Text.joined ", " Message.offered

end TableGateway.Http
