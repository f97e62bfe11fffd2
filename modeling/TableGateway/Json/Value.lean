import TableGateway.Json.Number
import TableGateway.Text.Bytes

-- JSON values. The members of an object stand in the order of their names,
-- each name once.

namespace TableGateway.Json

/-! ## Values -/

/-- A JSON value. -/
inductive Value where
  | null
  | bool (b : Bool)
  | number (n : Number)
  | string (s : String)
  | array (items : List Value)
  | object (members : List (String × Value))
deriving Repr, Inhabited

/-- The members of an object. -/
abbrev Members := List (String × Value)

/-! ## The marks of an object -/

/-- The opening brace. -/
def openBrace : Char := Char.ofNat 0x7B

/-- The closing brace. -/
def closeBrace : Char := Char.ofNat 0x7D

/-! ## Members -/

namespace Members

/-- Puts a member at its place. A member of the same name is replaced. -/
def insert (name : String) (value : Value) : Members → Members
  | [] => [(name, value)]
  | (other, v) :: rest =>
    if name = other then (name, value) :: rest
    else if Text.Precedes name other then (name, value) :: (other, v) :: rest
    else (other, v) :: insert name value rest

/-- Members in the order of a text: a later member of the same name wins. -/
def ofList (pairs : List (String × Value)) : Members :=
  pairs.foldl (fun members pair => insert pair.1 pair.2 members) []

/-- The value of a name. -/
def get? (members : Members) (name : String) : Option Value :=
  (members.find? fun member => member.1 == name).map Prod.snd

/-- The names, in order. -/
def names (members : Members) : List String :=
  members.map Prod.fst

end Members

end TableGateway.Json
