import TableGateway.Json.Number
import TableGateway.Text.Pieces
import TableGateway.Text.Quoted

-- Why a JSON text is refused, and where. A place is a line, counted from one,
-- and the number of bytes of that line that come before it.

namespace TableGateway.Json

/-! ## Causes -/

/-- A value that stands where another kind of value is expected. -/
inductive Found where
  | null
  | bool (b : Bool)
  | number (n : Number)
  | string (s : String)
  | sequence
  | map
deriving Repr, DecidableEq

/-- The words for a value that is not expected. -/
def Found.words : Found → String
  | .null => "null"
  | .bool true => "boolean `true`"
  | .bool false => "boolean `false`"
  | .number (.whole n) => "integer `" ++ (Number.whole n).text ++ "`"
  | .number (.float bits) => "floating point `" ++ (Number.float bits).text ++ "`"
  | .string s => "string " ++ Text.quoted s
  | .sequence => "sequence"
  | .map => "map"

/-- Why a text is refused. -/
inductive Cause where
  | valueEnds
  | listEnds
  | objectEnds
  | stringEnds
  | expectedValue
  | expectedIdent
  | expectedColon
  | expectedCommaOrBracket
  | expectedCommaOrBrace
  | trailingComma
  | trailingCharacters
  | keyNotString
  | invalidNumber
  | numberOutOfRange
  | controlCharacter
  | invalidEscape
  | loneSurrogate
  | unfinishedEscape
  | invalidUnicode
  | nestedTooDeep
  | wrongType (found : Found) (expected : String)
  | wrongValue (found : Found) (expected : String)
  | wrongLength (length : Nat) (expected : String)
  | unknownVariant (name : String) (known : List String)
  | missingField (name : String)
  | duplicateField (name : String)
  | noVariant (name : String)
deriving Repr, DecidableEq

/-- The words for a cause. -/
def Cause.words : Cause → String
  | .valueEnds => "EOF while parsing a value"
  | .listEnds => "EOF while parsing a list"
  | .objectEnds => "EOF while parsing an object"
  | .stringEnds => "EOF while parsing a string"
  | .expectedValue => "expected value"
  | .expectedIdent => "expected ident"
  | .expectedColon => "expected `:`"
  | .expectedCommaOrBracket => "expected `,` or `]`"
  | .expectedCommaOrBrace => "expected `,` or `\x7d`"
  | .trailingComma => "trailing comma"
  | .trailingCharacters => "trailing characters"
  | .keyNotString => "key must be a string"
  | .invalidNumber => "invalid number"
  | .numberOutOfRange => "number out of range"
  | .controlCharacter => "control character (\\u0000-\\u001F) found while parsing a string"
  | .invalidEscape => "invalid escape"
  | .loneSurrogate => "lone leading surrogate in hex escape"
  | .unfinishedEscape => "unexpected end of hex escape"
  | .invalidUnicode => "invalid unicode code point"
  | .nestedTooDeep => "recursion limit exceeded"
  | .wrongType found expected => "invalid type: " ++ found.words ++ ", expected " ++ expected
  | .wrongValue found expected => "invalid value: " ++ found.words ++ ", expected " ++ expected
  | .wrongLength n expected =>
    "invalid length " ++ (Number.whole n).text ++ ", expected " ++ expected
  | .unknownVariant name known =>
    "unknown variant `" ++ name ++ "`, expected one of " ++
      Text.joined ", " (known.map fun k => "`" ++ k ++ "`")
  | .missingField name => "missing field `" ++ name ++ "`"
  | .duplicateField name => "duplicate field `" ++ name ++ "`"
  | .noVariant name => "data did not match any variant of untagged enum " ++ name

/-! ## Places -/

/-- A cause with its place. -/
structure ReadError where
  cause : Cause
  line : Nat
  column : Nat
deriving Repr, DecidableEq

/-- The words for an error. -/
def ReadError.message (e : ReadError) : String :=
  e.cause.words ++ " at line " ++ (Number.whole e.line).text ++ " column " ++
    (Number.whole e.column).text

/-- A cause with the number of bytes that were not read. -/
structure Stop where
  cause : Cause
  left : Nat
deriving Repr, DecidableEq

/-- The place in a text where reading stopped. -/
def Stop.located (stop : Stop) (text : List UInt8) : ReadError :=
  let before := text.take (text.length - stop.left)
  { cause := stop.cause
    line := 1 + before.count 0x0A
    column := (before.reverse.takeWhile (· != 0x0A)).length }

end TableGateway.Json
