import TableGateway.Json.Value
import TableGateway.Text.Hex

-- The compact text of a JSON value. Nothing stands between the tokens, and a
-- string escapes only what it has to.

namespace TableGateway.Json

/-! ## Strings -/

/-- One character of a string. Quote, backslash and control characters are
escaped, and nothing else is. -/
def escaped (c : Char) : List Char :=
  if c = '"' then ['\\', '"']
  else if c = '\\' then ['\\', '\\']
  else if c.toNat = 0x08 then ['\\', 'b']
  else if c.toNat = 0x0C then ['\\', 'f']
  else if c = '\n' then ['\\', 'n']
  else if c = '\r' then ['\\', 'r']
  else if c = '\t' then ['\\', 't']
  else if c.toNat < 0x20 then
    ['\\', 'u', '0', '0', Text.hexDigit (c.toNat / 16), Text.hexDigit (c.toNat % 16)]
  else [c]

/-- The text of a string, with its quotes. -/
def stringChars (s : String) : List Char :=
  '"' :: s.toList.flatMap escaped ++ ['"']

/-! ## Values -/

mutual

/-- The text of a value. -/
def Value.chars : Value → List Char
  | .null => ['n', 'u', 'l', 'l']
  | .bool true => ['t', 'r', 'u', 'e']
  | .bool false => ['f', 'a', 'l', 's', 'e']
  | .number n => n.chars
  | .string s => stringChars s
  | .array items => '[' :: itemsChars items ++ [']']
  | .object members => openBrace :: membersChars members ++ [closeBrace]

/-- The items of an array, with commas between. -/
def itemsChars : List Value → List Char
  | [] => []
  | [v] => v.chars
  | v :: w :: rest => v.chars ++ ',' :: itemsChars (w :: rest)

/-- The members of an object, with commas between. -/
def membersChars : List (String × Value) → List Char
  | [] => []
  | [(k, v)] => stringChars k ++ ':' :: v.chars
  | (k, v) :: m :: rest => stringChars k ++ ':' :: v.chars ++ ',' :: membersChars (m :: rest)

end

/-- The compact text of a value. -/
def Value.text (v : Value) : String :=
  String.ofList v.chars

end TableGateway.Json
