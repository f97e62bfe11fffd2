-- Values of TOML texts. A table remembers how it came to be, because that
-- decides whether a later line may add to it.

namespace TableGateway.Toml

/-! ## Values -/

/-- How a table came to be: with a header of its own, as the place of tables
with headers, by dotted keys, or between braces. -/
inductive TableKind where
  | headed
  | implied
  | dotted
  | inline
deriving Repr, DecidableEq

/-- A value. Numbers that are not whole and points in time are kept as they are
written. Tables of one header in double brackets stand together, and the last of
them apart, since headers mean that one. -/
inductive Value where
  | string (s : String)
  | integer (n : Int)
  | float (written : String)
  | boolean (b : Bool)
  | moment (written : String)
  | array (items : List Value)
  | table (kind : TableKind) (members : List (String × Value))
  | tables (earlier : List (List (String × Value))) (last : List (String × Value))
deriving Repr, Inhabited

/-- The members of a table. -/
abbrev Members := List (String × Value)

/-- A key: the tables on the way, and the name of the member. -/
structure Key where
  path : List String
  name : String
deriving Repr, DecidableEq

/-! ## Members -/

namespace Members

/-- The value of a name. -/
def get? (members : Members) (name : String) : Option Value :=
  (members.find? fun member => member.1 == name).map Prod.snd

/-- Gives a name a value, in the place of the value that it had. -/
def put (name : String) (value : Value) : Members → Members
  | [] => [(name, value)]
  | (other, v) :: rest =>
    if other = name then (name, value) :: rest else (other, v) :: put name value rest

end Members

/-! ## Changing a table inside -/

/-- A path that makes tables of one kind may lead through a table of another.
Headers lead through all tables but those between braces. Dotted keys lead only
through tables that have no header. -/
def leadsThrough (fresh kind : TableKind) : Bool :=
  match fresh, kind with
  | _, .inline => false
  | .dotted, .headed => false
  | _, _ => true

/-- Changes the table at the end of a path. Tables that are not there are made,
of the kind `fresh`. Of tables in double brackets the last one is meant, and
other values end the way. -/
def change (fresh : TableKind) (leaf : TableKind → Members → Option Members) :
    List String → TableKind → Members → Option Members
  | [], kind, members => leaf kind members
  | name :: path, _, members =>
    match members.get? name with
    | none =>
      (change fresh leaf path fresh []).map fun inner => members.put name (.table fresh inner)
    | some (.table kind inner) =>
      if leadsThrough fresh kind then
        (change fresh leaf path kind inner).map fun inner => members.put name (.table kind inner)
      else none
    | some (.tables earlier last) =>
      (change fresh leaf path .headed last).map fun last =>
        members.put name (.tables earlier last)
    | some _ => none

/-- Adds a member where there is none of this name. Behind dots, the table has to
be one that dotted keys made. -/
def addLast (behindDots : Bool) (name : String) (value : Value) (kind : TableKind)
    (members : Members) : Option Members :=
  if (kind == .dotted) != behindDots then none
  else
    match members.get? name with
    | none => some (members.put name value)
    | some _ => none

/-- Adds the value of a key to a table. -/
def addMember (key : Key) (value : Value) (kind : TableKind) (members : Members) :
    Option Members :=
  change .dotted (addLast (!key.path.isEmpty) key.name value) key.path kind members

/-- Opens a table with a header. Before, it may have been the place of tables
with headers, and nothing else. -/
def openTable (name : String) (_ : TableKind) (members : Members) : Option Members :=
  match members.get? name with
  | none => some (members.put name (.table .headed []))
  | some (.table .implied inner) => some (members.put name (.table .headed inner))
  | some _ => none

/-- Opens a further table with a header in double brackets. -/
def openItem (name : String) (_ : TableKind) (members : Members) : Option Members :=
  match members.get? name with
  | none => some (members.put name (.tables [] []))
  | some (.tables earlier last) => some (members.put name (.tables (earlier ++ [last]) []))
  | some _ => none

end TableGateway.Toml
