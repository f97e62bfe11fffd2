import TableGateway.Encoding.Base64
import TableGateway.Text.Bytes
import TableGateway.Text.Blank
import TableGateway.Text.Pieces
import TableGateway.Text.Utf8

-- Keys in text form: a label between dashes, lines of base64, and the same
-- label again.

namespace TableGateway.Pem

/-- A label and the bytes below it. -/
structure Block where
  label : String
  content : List UInt8
deriving Repr, DecidableEq

/-- What comes before a mark, and what follows it. `due` is what the mark still
lacks, and `read` holds the bytes so far, last byte first. A byte that breaks a
mark does not begin another one. -/
def seek (mark : List UInt8) : List UInt8 → List UInt8 → List UInt8 →
    Option (List UInt8 × List UInt8)
  | [], read, rest => some ((read.drop mark.length).reverse, rest)
  | _ :: _, _, [] => none
  | d :: due, read, b :: rest => seek mark (if b = d then due else mark) (b :: read) rest

/-- What comes before the first mark, and what follows it. -/
def cut (mark text : List UInt8) : Option (List UInt8 × List UInt8) :=
  seek mark mark [] text

/-- The blank bytes around a label. -/
def isGap (b : UInt8) : Bool :=
  b == 0x20 || b == 0x09 || b == 0x0A || b == 0x0D

/-- The headers of a body, which end at an empty line, and the rest. -/
def headersAndData (body : List UInt8) : List UInt8 × List UInt8 :=
  ((cut [0x0A, 0x0A] body).orElse fun _ => cut [0x0D, 0x0A, 0x0D, 0x0A] body).getD ([], body)

/-- The lines of a text. What ends a line is not part of it. -/
def lines (text : String) : List String :=
  let pieces := Text.pieces '\n' text
  if pieces.getLast? = some "" then pieces.dropLast else pieces

/-- Every header is a name and a value, with a colon between them. -/
def areHeaders (text : String) : Bool :=
  (lines text).all fun line => line.toList.contains ':'

/-- The bytes of a text without its blanks. -/
def withoutBlanks (text : String) : List UInt8 :=
  Text.bytes (String.ofList (text.toList.filter fun c => !Text.isBlank c))

/-- The first block of a text, if both of its labels agree. -/
def parse? (text : List UInt8) : Option Block := do
  let (_, afterBegin) ← cut (Text.bytes "-----BEGIN ") text
  let (label, afterLabel) ← cut (Text.bytes "-----") afterBegin
  let (body, afterBody) ← cut (Text.bytes "-----END ") (afterLabel.dropWhile isGap)
  let (endLabel, _) ← cut (Text.bytes "-----") afterBody
  let (headers, data) := headersAndData body
  let label ← Utf8.decode? label
  let endLabel ← Utf8.decode? endLabel
  let headers ← Utf8.decode? headers
  let data ← Utf8.decode? data
  let content ← (Base64.decode Base64.forMail (withoutBlanks data)).toOption
  if label = endLabel ∧ label ≠ "" ∧ areHeaders headers then some ⟨label, content⟩ else none

end TableGateway.Pem
