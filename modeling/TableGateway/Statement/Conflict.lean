import TableGateway.Filter
import TableGateway.Prefer
import TableGateway.Request

-- What an insert does where a row is there already. The columns of the
-- conflict stand in the text of the statement, so they have to be plain names,
-- and columns of the table where those are known.

namespace TableGateway

namespace Conflict

/-- The characters that a plain name starts with. -/
def isNameStart (c : Char) : Bool :=
  c.isAlpha || c == '_'

/-- The characters of a plain name. -/
def isNameChar (c : Char) : Bool :=
  c.isAlphanum || c == '_'

/-- A plain name: a letter or underscore, then letters, digits and underscores. -/
def isPlainName (name : String) : Bool :=
  match name.toList with
  | [] => false
  | c :: rest => isNameStart c && rest.all isNameChar

/-- Refuses a name that is not plain, or not known. -/
def checkName (known : Option (List String)) (name : String) : Except Fault Unit :=
  if !isPlainName name then .error (.badRequest ("invalid on_conflict column: " ++ name))
  else
    match known with
    | none => .ok ()
    | some columns =>
      if name ∈ columns then .ok ()
      else .error (.badRequest ("unknown on_conflict column: " ++ name))

/-- The columns of the conflict. -/
def columns (request : Request) (known : Option (List String)) : Except Fault (List String) :=
  match request.params.given? conflictKey with
  | none => .ok []
  | some raw =>
    let names := Text.pieces ',' raw
    (names.forM (checkName known)).map fun _ => names

/-- The columns of the conflict in a statement. -/
def target (columns : List String) : String :=
  if columns.isEmpty then "" else " (" ++ Text.joined ", " columns ++ ")"

/-- What happens to a row that is there already, if something is wished. The
payload columns take the values of the new row. -/
def action? : Resolution → List String → Option String
  | .none, _ => Option.none
  | .ignoreDuplicates, _ => some " do nothing"
  | .mergeDuplicates, payloadColumns =>
    some (" do update set " ++
      Text.joined ", " (payloadColumns.map fun c => c ++ " = excluded." ++ c))

/-- The end of an insert. Where nothing is wished, the columns of the conflict
are not looked at. -/
def suffix (request : Request) (known : Option (List String)) (resolution : Resolution)
    (payloadColumns : List String) : Except Fault String :=
  match action? resolution payloadColumns with
  | none => .ok ""
  | some action =>
    (columns request known).map fun names => " on conflict" ++ target names ++ action

end Conflict

end TableGateway
