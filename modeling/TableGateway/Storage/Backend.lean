import TableGateway.Statement.Basic

-- The database behind the gateway. Its answers may depend on all calls that
-- were made before, so any database can stand here.

namespace TableGateway

/-- A call of the database. -/
inductive Call where
  | query (statement : Statement)
  | execute (statement : Statement)
  | count (statement : Statement)
  | tableColumns (table : String)
deriving Repr

/-- A database: what each call gives after the calls before it. A call that
fails says why. -/
structure Backend where
  query : List Call → Statement → Except String (List Json.Value)
  execute : List Call → Statement → Except String Nat
  count : List Call → Statement → Except String Int
  tableColumns : List Call → String → Except String (List String)

namespace Backend

/-- The words of the database for a table that is not there. -/
def missingTable (table : String) : String :=
  "error returned from database: (code: 1) no such table: " ++ table

/-- A database in which a table is missing. A missing table has no columns. -/
def without (table : String) : Backend where
  query _ _ := .error (missingTable table)
  execute _ _ := .error (missingTable table)
  count _ _ := .error (missingTable table)
  tableColumns _ _ := .ok []

/-- A database that fails at every call. -/
def failing (text : String) : Backend where
  query _ _ := .error text
  execute _ _ := .error text
  count _ _ := .error text
  tableColumns _ _ := .error text

end Backend

/-! ## Databases that are opened -/

/-- A database as it is opened: one without tables, or a file that turns out to be
something else. -/
inductive Database where
  | empty
  | broken
deriving Repr, DecidableEq

namespace Database

/-- The words of the database for a file that is something else. -/
def brokenText : String :=
  "error returned from database: (code: 26) file is not a database"

/-- The database, for calls that are about one table. -/
def backend (database : Database) (table : String) : Backend :=
  match database with
  | empty => .without table
  | broken => .failing brokenText

end Database

end TableGateway
