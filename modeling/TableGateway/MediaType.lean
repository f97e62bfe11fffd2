import TableGateway.Text.Pieces

-- Media types as content-type headers write them: a type, a slash, a subtype,
-- and parameters after semicolons.

namespace TableGateway

/-- A media type without its parameters. -/
structure MediaType where
  type : String
  subtype : String
deriving Repr, DecidableEq

namespace MediaType

/-! ## Characters -/

/-- The marks that a token may hold beside letters and digits. -/
def tokenMarks : List Char :=
  "!#$%&'*+-.^_`|~".toList

/-- The characters of tokens. -/
def isTokenChar (c : Char) : Bool :=
  c.isAlphanum || tokenMarks.contains c

/-- The characters of a quoted value: all but control characters. -/
def isQuotedChar (c : Char) : Bool :=
  c.toNat > 31 && c.toNat != 127

/-! ## Parameters -/

/-- What follows a quoted value: spaces up to a semicolon or the end. -/
def afterQuoted : List Char → Option (List Char)
  | [] => some []
  | ' ' :: rest => afterQuoted rest
  | ';' :: rest => some rest
  | _ => none

/-- A quoted value after its first character, and what follows it. -/
def quotedRest : List Char → Option (List Char)
  | [] => none
  | '"' :: rest => afterQuoted rest
  | c :: rest => if isQuotedChar c then quotedRest rest else none

/-- A plain value after its first character, and what follows it. -/
def plainRest : List Char → Option (List Char)
  | [] => some []
  | ';' :: rest => some rest
  | c :: rest => if isTokenChar c then plainRest rest else none

/-- The value of a parameter, and what follows it. A plain value may be empty
only at the end, and a quoted one has a first character, which may be a quote. -/
def valueRest : List Char → Option (List Char)
  | [] => some []
  | '"' :: c :: rest => if isQuotedChar c then quotedRest rest else none
  | ['"'] => none
  | c :: rest => if isTokenChar c then plainRest rest else none

/-- The name of a parameter, its equals sign and value, and what follows. -/
def parameterRest (cs : List Char) : Option (List Char) :=
  match cs.takeWhile isTokenChar, cs.dropWhile isTokenChar with
  | _ :: _, '=' :: rest => valueRest rest
  | _, _ => none

/-- Parameters up to the end. Each takes at least one character, so the length
is fuel enough. -/
def parametersEnd : Nat → List Char → Bool
  | _, [] => true
  | 0, _ => false
  | fuel + 1, cs =>
    match cs.dropWhile (· == ' ') with
    | [] => true
    | name =>
      match parameterRest name with
      | some rest => parametersEnd fuel rest
      | none => false

/-! ## Media types -/

/-- The media type of a text. A semicolon may not follow the slash. -/
def parse? (text : String) : Option MediaType :=
  let cs := text.toList
  match cs.takeWhile isTokenChar, cs.dropWhile isTokenChar with
  | _ :: _, '/' :: rest =>
    let type := String.ofList (cs.takeWhile isTokenChar)
    let subtype := String.ofList (rest.takeWhile isTokenChar)
    match rest.dropWhile isTokenChar with
    | [] => some ⟨type, subtype⟩
    | ';' :: parameters =>
      if subtype = "" then none
      else if parametersEnd (parameters.length + 1) parameters then some ⟨type, subtype⟩
      else none
    | _ => none
  | _, _ => none

/-- The media type of JSON texts, in any letter case. -/
def isJson (media : MediaType) : Bool :=
  Text.sameLetters media.type "application" && Text.sameLetters media.subtype "json"

end MediaType

end TableGateway
