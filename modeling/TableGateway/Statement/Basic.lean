import TableGateway.Filter
import TableGateway.Json.Described

-- Statements: a text with places for values, and the values in the order of
-- their places.

namespace TableGateway

/-- A statement with its bound values. -/
structure Statement where
  text : String
  values : List Json.Value
deriving Repr

/-- The kinds of statements. -/
inductive StatementKind where
  | select
  | exactCount
  | insert
  | update
  | updateSingleEntry
  | delete
deriving Repr, DecidableEq

/-- The name of a kind. -/
def StatementKind.name : StatementKind → String
  | .select => "select"
  | .exactCount => "exact_count"
  | .insert => "insert"
  | .update => "update"
  | .updateSingleEntry => "update_single_entry"
  | .delete => "delete"

namespace Statement

/-- All clauses of a condition hold. No clause makes no condition. -/
def whereText (clauses : List Clause) : String :=
  if clauses.isEmpty then ""
  else " where " ++ Text.joined " and " (clauses.map Clause.expr)

/-- The values of a condition, clause by clause. -/
def whereValues (clauses : List Clause) : List Json.Value :=
  clauses.flatMap Clause.values

/-- The statement for the rows that a condition holds for. -/
def restricted (statement : Statement) (clauses : List Clause) : Statement :=
  ⟨statement.text ++ whereText clauses, statement.values ++ whereValues clauses⟩

/-- The statement as a log line shows it. -/
def described (statement : Statement) : String :=
  "query=" ++ Text.quoted statement.text ++ " values=" ++ Json.describedList statement.values

end Statement

end TableGateway
