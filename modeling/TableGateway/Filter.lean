import TableGateway.Fault
import TableGateway.Json.Reader
import TableGateway.Text.Pieces

-- Filters: a parameter whose key is a column and whose value is an operator,
-- a point and an operand. Each filter becomes one condition with bound values.

namespace TableGateway

/-! ## Reserved keys -/

/-- Parameters with a meaning of their own. -/
def selectKey : String := "select"
def orderKey : String := "order"
def limitKey : String := "limit"
def offsetKey : String := "offset"
def conflictKey : String := "on_conflict"

/-- The keys that never name a column. -/
def reservedKeys : List String :=
  [selectKey, orderKey, limitKey, offsetKey, conflictKey]

/-- A key that names a column: every key but the reserved ones in any letter
case. -/
def isColumnKey (key : String) : Bool :=
  !(reservedKeys.any fun reserved => Text.sameLetters reserved key)

/-! ## Operators -/

/-- The operators of filters. -/
inductive Operator where
  | eq | neq | gt | ge | lt | le | like | ilike | isIn | is
deriving Repr, DecidableEq

namespace Operator

/-- All operators. -/
def all : List Operator :=
  [eq, neq, gt, ge, lt, le, like, ilike, isIn, is]

/-- The name of an operator in a filter. -/
def name : Operator → String
  | eq => "eq"
  | neq => "neq"
  | gt => "gt"
  | ge => "ge"
  | lt => "lt"
  | le => "le"
  | like => "like"
  | ilike => "ilike"
  | isIn => "in"
  | is => "is"

/-- The operator in a statement. -/
def sql : Operator → String
  | eq => "="
  | neq => "!="
  | gt => ">"
  | ge => ">="
  | lt => "<"
  | le => "<="
  | like => "LIKE"
  | ilike => "ILIKE"
  | isIn => "IN"
  | is => "IS"

/-- The operator of a name, in exactly these letters. -/
def ofName? (name : String) : Option Operator :=
  all.find? fun operator => operator.name == name

end Operator

/-! ## Clauses -/

/-- A condition on one column with the values for its places. -/
structure Clause where
  expr : String
  values : List Json.Value
deriving Repr

namespace Filter

/-- The text without one opening parenthesis in front. -/
def withoutOpening : List Char → List Char
  | '(' :: rest => rest
  | cs => cs

/-- The text without one opening parenthesis in front and one closing one at
the end. -/
def unwrapped (operand : String) : String :=
  let opened := withoutOpening operand.toList
  String.ofList (if opened.getLast? = some ')' then opened.dropLast else opened)

/-- The operand of `in`, as the text of a JSON array. -/
def listText (operand : String) : String :=
  "[" ++ unwrapped operand ++ "]"

/-- As many places as there are values. -/
def places (count : Nat) : String :=
  Text.joined "," (List.replicate count "?")

/-- A list of values, not empty, that the column is one of. -/
def inClause (column operand : String) : Except Fault Clause :=
  match Json.readValues (Text.bytes (listText operand)) with
  | .error e => .error (.decode e)
  | .ok [] => .error (.unsupportedOperator ("in." ++ operand))
  | .ok values => .ok ⟨column ++ " IN (" ++ places values.length ++ ")", values⟩

/-- The value that a word for null or a truth value names, in any letter case. -/
def isValue? (operand : String) : Option Json.Value :=
  if Text.sameLetters operand "null" then some .null
  else if Text.sameLetters operand "true" then some (.bool true)
  else if Text.sameLetters operand "false" then some (.bool false)
  else none

/-- Null or a truth value that the column is. -/
def isClause (column operand : String) : Except Fault Clause :=
  match isValue? operand with
  | some value => .ok ⟨column ++ " IS ?", [value]⟩
  | none => .error (.unsupportedOperator ("is." ++ operand))

/-- The clause of an operator and its operand. All operators but two bind the
operand as it stands. -/
def clause (operator : Operator) (column operand : String) : Except Fault Clause :=
  match operator with
  | .isIn => inClause column operand
  | .is => isClause column operand
  | other => .ok ⟨column ++ " " ++ other.sql ++ " ?", [.string operand]⟩

/-- The clause of a filter. An empty filter has none. -/
def parse (column raw : String) : Except Fault (Option Clause) :=
  if raw = "" then .ok none
  else
    match Text.cutAt '.' raw with
    | none => .error (.unsupportedOperator raw)
    | some (name, operand) =>
      if operand = "" then .error (.unsupportedOperator raw)
      else
        match Operator.ofName? name with
        | none => .error (.unsupportedOperator raw)
        | some operator => (clause operator column operand).map some

end Filter

end TableGateway
