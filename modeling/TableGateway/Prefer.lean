import TableGateway.Fault
import TableGateway.Request
import TableGateway.Text.Blank

-- What a client prefers: whether rows are counted, and what happens to rows
-- that are there already.

namespace TableGateway

/-! ## Wishes -/

/-- How rows are counted. -/
inductive CountMethod where
  | none
  | exact
deriving Repr, DecidableEq, Inhabited

/-- What an insert does with rows that are there already. -/
inductive Resolution where
  | none
  | ignoreDuplicates
  | mergeDuplicates
deriving Repr, DecidableEq, Inhabited

/-- The wishes of a client. -/
structure Preference where
  count : CountMethod := .none
  resolution : Resolution := .none
deriving Repr, DecidableEq, Inhabited

/-- The method of a word, in any letter case. -/
def CountMethod.parse (word : String) : Except Fault CountMethod :=
  if word = "" then .ok .none
  else if Text.sameLetters word "exact" then .ok .exact
  else .error (.badRequest ("unsupported count preference: " ++ word))

/-- The resolution of a word, in any letter case. -/
def Resolution.parse (word : String) : Except Fault Resolution :=
  if word = "" then .ok .none
  else if Text.sameLetters word "ignore-duplicates" then .ok .ignoreDuplicates
  else if Text.sameLetters word "merge-duplicates" then .ok .mergeDuplicates
  else .error (.badRequest ("unsupported resolution preference: " ++ word))

namespace Preference

/-! ## Reading a header -/

/-- A comma or a semicolon stands between items. -/
def isSeparator (c : Char) : Bool :=
  c == ',' || c == ';'

/-- Takes one item. An item of an unknown key, or without an equals sign,
changes nothing. -/
def take (preference : Preference) (item : String) : Except Fault Preference :=
  match Text.cutAt '=' (Text.trim item) with
  | none => .ok preference
  | some (key, value) =>
    if Text.sameLetters (Text.trim key) "count" then
      (CountMethod.parse (Text.trim value)).map fun count => { preference with count }
    else if Text.sameLetters (Text.trim key) "resolution" then
      (Resolution.parse (Text.trim value)).map fun resolution => { preference with resolution }
    else .ok preference

/-- Takes the items of a header from left to right. -/
def continued (preference : Preference) (header : String) : Except Fault Preference :=
  (Text.piecesBy isSeparator header).foldlM take preference

/-- The wishes of a header. -/
def parse (header : String) : Except Fault Preference :=
  continued {} header

/-- The wishes of a request. -/
def ofRequest (request : Request) : Except Fault Preference :=
  match request.header? Request.preferName with
  | none => .ok {}
  | some header => parse header

end Preference

end TableGateway
