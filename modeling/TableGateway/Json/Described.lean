import TableGateway.Json.Value
import TableGateway.Text.Pieces
import TableGateway.Text.Quoted

-- Values as log lines show them: each with the name of its kind.

namespace TableGateway.Json

mutual

/-- A value with the name of its kind. -/
def Value.described : Value → String
  | .null => "Null"
  | .bool true => "Bool(true)"
  | .bool false => "Bool(false)"
  | .number n => "Number(" ++ n.text ++ ")"
  | .string s => "String(" ++ Text.quoted s ++ ")"
  | .array items => "Array [" ++ Text.joined ", " (describedItems items) ++ "]"
  | .object members => "Object \x7b" ++ Text.joined ", " (describedMembers members) ++ "\x7d"

/-- The items of a list, each with the name of its kind. -/
def describedItems : List Value → List String
  | [] => []
  | v :: rest => v.described :: describedItems rest

/-- Names between quotes with their values. -/
def describedMembers : List (String × Value) → List String
  | [] => []
  | (k, v) :: rest => (Text.quoted k ++ ": " ++ v.described) :: describedMembers rest

end

/-- A list of values, each with the name of its kind. -/
def describedList (values : List Value) : String :=
  "[" ++ Text.joined ", " (describedItems values) ++ "]"

end TableGateway.Json
