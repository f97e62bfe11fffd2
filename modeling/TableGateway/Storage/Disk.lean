import TableGateway.Auth.KeyFile
import TableGateway.Text.Pieces
import TableGateway.Text.Utf8

-- The files and folders that a start finds, and the way from a path to them.

namespace TableGateway

/-! ## What is there -/

/-- What stands at a place. -/
inductive Entry where
  | file (content : KeyFile)
  | folder
  | socket
deriving Repr, DecidableEq

/-- Everything that is there, by the names that lead to it from the root, and the
folder that paths start in. -/
structure Disk where
  here : List String
  entry? : List String → Option Entry

/-- Why a path leads to no file. -/
inductive PathFault where
  | missing
  | notFolder
  | isFolder
  | isSocket
  | longName
  | hasZero
deriving Repr, DecidableEq

/-- The words of the system for a fault of a path. -/
def PathFault.message : PathFault → String
  | missing => KeyFile.missingText
  | notFolder => "Not a directory (os error 20)"
  | isFolder => "Is a directory (os error 21)"
  | isSocket => "No such device or address (os error 6)"
  | longName => "File name too long (os error 36)"
  | hasZero => "file name contained an unexpected NUL byte"

namespace Disk

/-! ## Ways -/

/-- How many bytes a name may have. -/
def maxName : Nat := 255

/-- How many bytes a path has to stay below. -/
def pathLimit : Nat := 4096

/-- A name is not too long to be one. -/
def isName (name : String) : Bool :=
  name.utf8ByteSize ≤ maxName

/-- Where a name of a path leads from a place. One dot stays, two go back. -/
def step (place : List String) (name : String) : List String :=
  if name = "" ∨ name = "." then place
  else if name = ".." then place.dropLast
  else place ++ [name]

/-- The place that a path starts from. -/
def start (disk : Disk) (path : String) : List String :=
  if path.toList.head? = some '/' then [] else disk.here

/-- The place of a path by its names alone, whatever is there. -/
def place (disk : Disk) (path : String) : List String :=
  (Text.pieces '/' path).foldl step (disk.start path)

/-- The place that names lead to, if all places on the way are folders. -/
def walk (disk : Disk) (place : List String) : List String → Except PathFault (List String)
  | [] => .ok place
  | name :: rest =>
    match disk.entry? place with
    | none => .error .missing
    | some .folder => if isName name then disk.walk (step place name) rest else .error .longName
    | some _ => .error .notFolder

/-- The place that a path leads to. -/
def follow (disk : Disk) (path : String) : Except PathFault (List String) :=
  if path = "" then .error .missing
  else if path.toList.contains (Char.ofNat 0) then .error .hasZero
  else if pathLimit ≤ path.utf8ByteSize then .error .longName
  else disk.walk (disk.start path) (Text.pieces '/' path)

/-! ## Files -/

/-- The file of a path. -/
def file (disk : Disk) (path : String) : Except PathFault KeyFile :=
  (disk.follow path).bind fun place =>
    match disk.entry? place with
    | some (.file content) => .ok content
    | some .folder => .error .isFolder
    | some .socket => .error .isSocket
    | none => .error .missing

/-- The words of the system for a file that is not text. -/
def notTextMessage : String := "stream did not contain valid UTF-8"

/-- The text of a file, or the words of the system for why there is none. -/
def readText (disk : Disk) (path : String) : Except String String := do
  let file ← (disk.file path).mapError PathFault.message
  match Utf8.decode? file.content with
  | some text => .ok text
  | none => .error notTextMessage

/-- The disk with something new at a place. -/
def put (disk : Disk) (place : List String) (entry : Entry) : Disk :=
  { disk with entry? := fun other => if other = place then some entry else disk.entry? other }

/-- There is nothing at a place, but something can be put there. -/
def isFree (disk : Disk) (place : List String) : Bool :=
  disk.entry? place == none && disk.entry? place.dropLast == some .folder &&
    place.getLast?.all isName

end Disk

end TableGateway
