import TableGateway.Toml.Keys
import TableGateway.Toml.Scalars

-- Values and whole TOML texts.

namespace TableGateway.Toml

/-! ## Comments -/

/-- The text after blanks, ends of lines and comments. A comment has to end with
its line. -/
def skipFiller : Bool → List Char → Option (List Char)
  | false, [] => some []
  | true, [] => none
  | _, '\n' :: rest => skipFiller false rest
  | _, '\r' :: '\n' :: rest => skipFiller false rest
  | true, c :: rest => if isPlain c then skipFiller true rest else none
  | false, c :: rest =>
    if isBlank c then skipFiller false rest
    else if c = '#' then skipFiller true rest
    else if c = '\r' then none
    else some (c :: rest)

/-- The text without a comment in front. -/
def withoutComment : List Char → List Char
  | '#' :: rest => rest.dropWhile isPlain
  | cs => cs

/-- The text after what may end a line: blanks and a comment. The last line ends
with the text. -/
def afterLine? (cs : List Char) : Option (List Char) :=
  match withoutComment (skipBlank cs) with
  | [] => some []
  | rest => newline? rest

/-! ## Arrays and inline tables -/

/-- The items of an array. `read` holds those so far, last item first. A comma
may follow the last item. -/
def readItems (item : Reading Value) : Nat → List Value → Reading (List Value)
  | 0, _, _ => none
  | fuel + 1, read, cs => do
    let (value, rest) ← item cs
    match ← skipFiller false rest with
    | ']' :: rest => some ((value :: read).reverse, rest)
    | ',' :: rest =>
      match ← skipFiller false rest with
      | ']' :: rest => some ((value :: read).reverse, rest)
      | rest => readItems item fuel (value :: read) rest
    | _ => none

/-- An array after its opening bracket. -/
def readArray (item : Reading Value) : Reading (List Value) := fun cs => do
  match ← skipFiller false cs with
  | ']' :: rest => some ([], rest)
  | rest => readItems item (rest.length + 1) [] rest

/-- A key with its value. -/
def readPair (item : Reading Value) : Reading (Key × Value) := fun cs => do
  let (key, rest) ← readKey cs
  let rest ← after? '=' rest
  let (value, rest) ← item (skipBlank rest)
  some ((key, value), rest)

/-- The members of a table between braces, added to those so far. No comma may
follow the last one. -/
def readInlineMembers (item : Reading Value) : Nat → Members → Reading Members
  | 0, _, _ => none
  | fuel + 1, members, cs => do
    let ((key, value), rest) ← readPair item cs
    let members ← addMember key value .inline members
    match skipBlank rest with
    | ',' :: rest => readInlineMembers item fuel members rest
    | c :: rest => if c = Char.ofNat 0x7D then some (members, rest) else none
    | [] => none

/-- A table after its opening brace. -/
def readInline (item : Reading Value) : Reading Members := fun cs =>
  match skipBlank cs with
  | c :: rest =>
    if c = Char.ofNat 0x7D then some ([], rest)
    else readInlineMembers item (rest.length + 2) [] (c :: rest)
  | [] => none

/-! ## Values -/

/-- A truth value. -/
def readBoolean : Reading Value
  | 't' :: 'r' :: 'u' :: 'e' :: rest => some (.boolean true, rest)
  | 'f' :: 'a' :: 'l' :: 's' :: 'e' :: rest => some (.boolean false, rest)
  | _ => none

/-- A value that is neither an array nor a table. -/
def readScalar : Reading Value
  | [] => none
  | c :: rest =>
    if c = '"' ∨ c = '\'' then
      (readString (c :: rest)).map fun read => (.string read.1, read.2)
    else if c = 't' ∨ c = 'f' then readBoolean (c :: rest)
    else readNumeral (c :: rest)

/-- A value. Items and members are read by `inner`, and where there is none it may
not be an array or a table. -/
def readWith (inner : Option (Reading Value)) : Reading Value
  | [] => none
  | c :: rest =>
    if c = '[' then do
      let (items, rest) ← readArray (← inner) rest
      some (.array items, rest)
    else if c = Char.ofNat 0x7B then do
      let (members, rest) ← readInline (← inner) rest
      some (.table .inline members, rest)
    else readScalar (c :: rest)

/-- A value whose brackets nest to a depth at most. -/
def readValue : Nat → Reading Value
  | 0 => readWith none
  | depth + 1 => readWith (some (readValue depth))

/-! ## Whole texts -/

/-- What is read of a text: all members, and the table that lines add to. -/
structure Document where
  members : Members := []
  place : List String := []
deriving Repr

namespace Document

/-- Adds a member to the table that lines add to. -/
def add (document : Document) (key : Key) (value : Value) : Option Document :=
  (change .implied (addMember key value) document.place .headed document.members).map
    fun members => { document with members }

/-- Opens the table of a header. -/
def enter (document : Document) (key : Key)
    (opening : String → TableKind → Members → Option Members) : Option Document :=
  (change .implied (opening key.name) key.path .headed document.members).map
    fun members => { members, place := key.path ++ [key.name] }

/-- Reads a header, after its first bracket, and opens its table. -/
def readHeader (document : Document) : Reading Document
  | '[' :: rest => do
    let (key, rest) ← readKey rest
    let rest ← after? ']' rest
    let rest ← after? ']' rest
    some (← document.enter key openItem, rest)
  | rest => do
    let (key, rest) ← readKey rest
    let rest ← after? ']' rest
    some (← document.enter key openTable, rest)

/-- Reads a key with its value, and adds it. -/
def readMember (document : Document) : Reading Document := fun cs => do
  let ((key, value), rest) ← readPair (readValue (depthLimit - 1)) cs
  some (← document.add key value, rest)

/-- Reads what is on a line: a header, a member, or nothing. -/
def readContent (document : Document) (cs : List Char) : Option (Document × List Char) :=
  match cs with
  | '[' :: rest => document.readHeader rest
  | '#' :: _ | '\n' :: _ | '\r' :: _ => some (document, cs)
  | cs => document.readMember cs

/-- Reads line after line. Every line takes a character, so the length of the text
is fuel enough. -/
def readLines : Nat → Document → List Char → Option Document
  | 0, _, _ => none
  | fuel + 1, document, cs =>
    match skipBlank cs with
    | [] => some document
    | cs => do
      let (document, rest) ← document.readContent cs
      readLines fuel document (← afterLine? rest)

end Document

/-- The text without a byte order mark in front. -/
def withoutMark : List Char → List Char
  | c :: rest => if c.toNat = 0xFEFF then rest else c :: rest
  | [] => []

/-- The members of a text. -/
def read (text : String) : Option Members :=
  let cs := withoutMark text.toList
  (Document.readLines (cs.length + 1) {} cs).map Document.members

end TableGateway.Toml
