import TableGateway.Fault
import TableGateway.Text.Pieces

-- The order of a result: items between commas, each a column with a direction
-- and a place for nulls after points.

namespace TableGateway

/-- One item of an order. -/
structure OrderItem where
  column : String
  direction : Option String := none
  nulls : Option String := none
deriving Repr, DecidableEq

namespace OrderItem

/-- The item in a statement. -/
def text (item : OrderItem) : String :=
  Text.joined " " (item.column :: item.direction.toList ++ item.nulls.toList)

/-- The words for a place for nulls. -/
def nullsWords? (word : String) : Option String :=
  if word = "nullsfirst" then some "nulls first"
  else if word = "nullslast" then some "nulls last"
  else none

/-- A word after a column. Words for nulls are written out, and all others stay
as they are. -/
def spoken (word : String) : String :=
  (nullsWords? word).getD word

/-- The item of a piece with at most three parts between points. -/
def parse (piece : String) : Except Fault OrderItem :=
  match Text.pieces '.' piece with
  | [column] => .ok { column }
  | [column, word] =>
    match nullsWords? word with
    | some nulls => .ok { column, nulls := some nulls }
    | none => .ok { column, direction := some word }
  | [column, direction, nulls] =>
    .ok { column, direction := some (spoken direction), nulls := some (spoken nulls) }
  | _ => .error (.invalidOrder piece)

end OrderItem

/-- The items of an order. Empty pieces are passed over. -/
def parseOrder (order : String) : Except Fault (List OrderItem) :=
  ((Text.pieces ',' order).filter (· ≠ "")).mapM OrderItem.parse

end TableGateway
