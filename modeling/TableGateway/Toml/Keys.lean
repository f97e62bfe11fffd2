import TableGateway.Toml.Strings
import TableGateway.Toml.Value

-- Keys: names with points between them. A name is plain, or a string on one
-- line.

namespace TableGateway.Toml

/-- The characters of plain names. -/
def isBare (c : Char) : Bool :=
  c.isAlphanum || c == '_' || c == '-'

/-- One name of a key. -/
def readName : Reading (List Char)
  | '"' :: rest => readQuoted (rest.length + 1) [] rest
  | '\'' :: rest => readLiteral rest
  | cs => if cs.takeWhile isBare = [] then none else some (cs.takeWhile isBare, cs.dropWhile isBare)

/-- The names of a key, with blanks around each. Every name takes a character, so
the length of the text is fuel enough. -/
def readNames : Nat → Reading (List String)
  | 0, _ => none
  | fuel + 1, cs => do
    let (name, rest) ← readName (skipBlank cs)
    match skipBlank rest with
    | '.' :: rest => do
      let (names, rest) ← readNames fuel rest
      some (String.ofList name :: names, rest)
    | rest => some ([String.ofList name], rest)

/-- Brackets nest, and keys have names, up to one less than this. -/
def depthLimit : Nat := 80

/-- A key. -/
def readKey : Reading Key := fun cs => do
  let (names, rest) ← readNames (cs.length + 1) cs
  let name ← names.getLast?
  if names.length < depthLimit then some (⟨names.dropLast, name⟩, rest) else none

end TableGateway.Toml
