import TableGateway.Order
import TableGateway.Page
import TableGateway.Statement.Condition

-- The statements that read: the rows of a table, and how many there are.

namespace TableGateway

namespace Request

/-! ## Parts of a select -/

/-- The columns of the result, as the request writes them. All columns if it
names none. -/
def resultColumns (request : Request) : List String :=
  match request.params.given? selectKey with
  | none => ["*"]
  | some columns => Text.pieces ',' columns

/-- The order of the result. -/
def orderItems (request : Request) : Except Fault (List OrderItem) :=
  match request.params.given? orderKey with
  | none => .ok []
  | some order => parseOrder order

/-- The order in a statement. No item makes no order. -/
def orderText (items : List OrderItem) : String :=
  if items.isEmpty then "" else " order by " ++ Text.joined ", " (items.map OrderItem.text)

/-- The page in a statement. -/
def pageText (page : Option Page) : String :=
  (page.map fun page => " " ++ page.sql).getD ""

/-! ## Statements -/

/-- The rows of a table that the filters hold for, in order, page by page. -/
def select (request : Request) (table : String) : Except Fault Statement := do
  let clauses ← request.clauses
  let items ← request.orderItems
  let page ← Page.ofRequest request
  let columns := Text.joined ", " request.resultColumns
  let rows := Statement.restricted ⟨"select " ++ columns ++ " from " ++ table, []⟩ clauses
  return { rows with text := rows.text ++ orderText items ++ pageText page }

/-- The number of rows of a table that the filters hold for. -/
def exactCount (request : Request) (table : String) : Except Fault Statement := do
  let clauses ← request.clauses
  return Statement.restricted ⟨"select count(1) from " ++ table, []⟩ clauses

end Request

end TableGateway
