import TableGateway.Fault

-- The tables that requests may reach. All other tables are refused before
-- anything else of a request is looked at.

namespace TableGateway

/-- The names of the tables and views that are open. -/
structure AllowList where
  tables : List String := []
deriving Repr, DecidableEq

namespace AllowList

/-- The table is open, under exactly this name. -/
def allows (list : AllowList) (table : String) : Bool :=
  list.tables.contains table

/-- Refuses a table that is not open. -/
def check (list : AllowList) (table : String) : Except Fault Unit :=
  if list.allows table then .ok () else .error .accessRestricted

end AllowList

end TableGateway
