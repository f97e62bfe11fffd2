import TableGateway.Text.Hex

-- Strings and keys of TOML texts.

namespace TableGateway.Toml

/-- Reads from the start of a text and gives what follows. -/
abbrev Reading (α : Type) := List Char → Option (α × List Char)

/-! ## Lines -/

/-- Spaces and tabs stand between the parts of a line. -/
def isBlank (c : Char) : Bool :=
  c == ' ' || c == '\t'

/-- The text from its first character that is no space or tab. -/
def skipBlank (cs : List Char) : List Char :=
  cs.dropWhile isBlank

/-- The text after the end of a line, which a return may come before. -/
def newline? : List Char → Option (List Char)
  | '\n' :: rest => some rest
  | '\r' :: '\n' :: rest => some rest
  | _ => none

/-- The text after all blanks and ends of lines. -/
def skipLines : List Char → List Char
  | ' ' :: rest => skipLines rest
  | '\t' :: rest => skipLines rest
  | '\n' :: rest => skipLines rest
  | '\r' :: '\n' :: rest => skipLines rest
  | cs => cs

/-- The characters of comments and strings: tabs, and all that are not control
characters. -/
def isPlain (c : Char) : Bool :=
  c == '\t' || (0x20 ≤ c.toNat && c.toNat ≠ 0x7F)

/-! ## Escapes -/

/-- The value of a hexadecimal digit. -/
def hexValue? (c : Char) : Option Nat :=
  if c.toNat < 0x80 then Text.hexValue? (UInt8.ofNat c.toNat) else none

/-- The number that hexadecimal digits write. -/
def hexNumber? (cs : List Char) : Option Nat :=
  (cs.mapM hexValue?).map fun digits => digits.foldl (fun n d => n * 16 + d) 0

/-- The character of a number, which may not be a surrogate. -/
def character? (n : Nat) : Option Char :=
  if n < 0xD800 ∨ (0xDFFF < n ∧ n < 0x110000) then some (Char.ofNat n) else none

/-- A character written with so many hexadecimal digits. -/
def readCodePoint (count : Nat) : Reading Char := fun cs =>
  if cs.length < count then none
  else do
    let n ← hexNumber? (cs.take count)
    let c ← character? n
    some (c, cs.drop count)

/-- The character that an escape stands for, after its backslash. -/
def readEscape : Reading Char
  | 'b' :: rest => some (Char.ofNat 0x08, rest)
  | 't' :: rest => some ('\t', rest)
  | 'n' :: rest => some ('\n', rest)
  | 'f' :: rest => some (Char.ofNat 0x0C, rest)
  | 'r' :: rest => some ('\r', rest)
  | '"' :: rest => some ('"', rest)
  | '\\' :: rest => some ('\\', rest)
  | 'u' :: rest => readCodePoint 4 rest
  | 'U' :: rest => readCodePoint 8 rest
  | _ => none

/-! ## Strings on one line -/

/-- The characters up to a closing double quote. `read` holds those so far, last
character first. Every step reads a character, so the length of the text is fuel
enough. -/
def readQuoted : Nat → List Char → Reading (List Char)
  | 0, _, _ => none
  | _, _, [] => none
  | fuel + 1, read, c :: rest =>
    if c = '"' then some (read.reverse, rest)
    else if c = '\\' then do
      let (e, rest) ← readEscape rest
      readQuoted fuel (e :: read) rest
    else if isPlain c then readQuoted fuel (c :: read) rest
    else none

/-- The characters up to a closing single quote, which stand for themselves. -/
def readLiteral : Reading (List Char)
  | [] => none
  | c :: rest =>
    if c = '\'' then some ([], rest)
    else if isPlain c then (readLiteral rest).map fun read => (c :: read.1, read.2)
    else none

/-! ## Strings on several lines -/

/-- The text without one end of a line in front. -/
def withoutNewline (cs : List Char) : List Char :=
  (newline? cs).getD cs

/-- How many quotes a text starts with. -/
def quoteRun (quote : Char) (cs : List Char) : Nat :=
  (cs.takeWhile (· == quote)).length

/-- The text after a backslash that joins lines: blanks, the end of the line, and
all further blanks and ends of lines. -/
def afterJoin? (cs : List Char) : Option (List Char) :=
  (newline? (skipBlank cs)).map skipLines

/-- A character that stands for itself, or the end of a line. -/
def readPlain : Reading Char := fun cs =>
  match newline? cs with
  | some rest => some ('\n', rest)
  | none =>
    match cs with
    | [] => none
    | c :: rest => if isPlain c then some (c, rest) else none

/-- The next character of a string on several lines, if there is one before the
text goes on. -/
def readInner (escapes : Bool) : Reading (Option Char)
  | [] => none
  | c :: rest =>
    if escapes ∧ c = '\\' then
      match afterJoin? rest with
      | some rest => some (none, rest)
      | none => (readEscape rest).map fun read => (some read.1, read.2)
    else (readPlain (c :: rest)).map fun read => (some read.1, read.2)

/-- The characters up to three closing quotes. One or two quotes may stand alone,
and also just before the closing ones. -/
def readLong (quote : Char) (escapes : Bool) : Nat → List Char → Reading (List Char)
  | 0, _, _ => none
  | fuel + 1, read, cs =>
    let run := quoteRun quote cs
    if run ≥ 3 then
      some (read.reverse ++ List.replicate (min (run - 3) 2) quote, cs.drop (min run 5))
    else if run > 0 then
      readLong quote escapes fuel (List.replicate run quote ++ read) (cs.drop run)
    else
      match readInner escapes cs with
      | none => none
      | some (c, rest) => readLong quote escapes fuel (c.toList ++ read) rest

/-! ## All strings -/

/-- A string of any form. -/
def readChars : Reading (List Char)
  | '"' :: '"' :: '"' :: rest => readLong '"' true (rest.length + 1) [] (withoutNewline rest)
  | '\'' :: '\'' :: '\'' :: rest => readLong '\'' false (rest.length + 1) [] (withoutNewline rest)
  | '"' :: rest => readQuoted (rest.length + 1) [] rest
  | '\'' :: rest => readLiteral rest
  | _ => none

/-- A string of any form. -/
def readString : Reading String := fun cs =>
  (readChars cs).map fun read => (String.ofList read.1, read.2)

end TableGateway.Toml
