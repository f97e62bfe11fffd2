import TableGateway.Text.Pieces

-- The targets of requests: a path with a query, such a path behind the address
-- of a host, an address alone, or a star for the server as a whole.

namespace TableGateway.Http

/-- What a target says to the gateway: a path and a query, as they are written. -/
structure Target where
  path : String
  query : String := ""
deriving Repr, DecidableEq

namespace Target

/-! ## Characters -/

/-- The character lies between two others, or is one of them. -/
def isWithin (low high : Char) (c : Char) : Bool :=
  low ≤ c && c ≤ high

/-- The characters that both paths and queries may hold. -/
def isCommonChar (c : Char) : Bool :=
  c == '!' || isWithin '$' ';' c || c == '=' || isWithin '@' '_' c || isWithin 'a' 'z' c ||
    c == '|' || c == '~' || c.toNat == 0x7B || c.toNat == 0x7D

/-- The characters of paths. -/
def isPathChar (c : Char) : Bool :=
  isCommonChar c || c == '"'

/-- The characters of queries. -/
def isQueryChar (c : Char) : Bool :=
  isCommonChar c || c == '?' || c.toNat == 0x60

/-- The characters of the names of schemes. -/
def isSchemeChar (c : Char) : Bool :=
  c.isAlphanum || c == '+' || c == '-' || c == '.' || c == '~'

/-- The marks that an address may hold beside letters and digits. -/
def addressMarks : List Char :=
  "!$&'()*+,-.:;=@[]_~".toList

/-- The characters of addresses. A percent sign may stand in front of a host only,
or between its brackets. -/
def isAddressChar (c : Char) : Bool :=
  c.isAlphanum || addressMarks.contains c || c == '%'

/-- The characters that end an address. -/
def isAddressEnd (c : Char) : Bool :=
  c == '/' || c == '?' || c == '#'

/-! ## Paths and queries -/

/-- The path and the query of a text. What follows a number sign counts for
nothing. -/
def pathAndQuery? (text : List Char) : Option Target :=
  let shown := text.takeWhile (· ≠ '#')
  let path := shown.takeWhile (· ≠ '?')
  let query := (shown.dropWhile (· ≠ '?')).drop 1
  if path.all isPathChar && query.all isQueryChar then
    some { path := String.ofList path, query := String.ofList query }
  else none

/-- The target with a single slash for a path that is empty. -/
def rooted (target : Target) : Target :=
  if target.path = "" then { target with path := "/" } else target

/-! ## Addresses -/

/-- What has been read of an address: the colons and percent signs since the last
mark that settles them, and the brackets. -/
structure Address where
  colons : Nat := 0
  hasPercent : Bool := false
  isOpen : Bool := false
  isClosed : Bool := false
deriving Repr, DecidableEq

/-- The most colons that an address may hold at once. -/
def maxColons : Nat := 8

/-- Takes the next character of an address. An at sign and a closing bracket settle
the colons and percent signs before them. -/
def Address.take (address : Address) (c : Char) : Option Address :=
  if c = ':' then
    if address.colons < maxColons then some { address with colons := address.colons + 1 } else none
  else if c = '[' then
    if address.hasPercent || address.isOpen then none else some { address with isOpen := true }
  else if c = ']' then
    if !address.isOpen || address.isClosed then none
    else some { address with colons := 0, hasPercent := false, isClosed := true }
  else if c = '@' then some { address with colons := 0, hasPercent := false }
  else if c = '%' then some { address with hasPercent := true }
  else if isAddressChar c then some address
  else none

/-- The address is that of a host, perhaps with a port and a user. -/
def isAddress (text : List Char) : Bool :=
  match text.foldlM Address.take {} with
  | none => false
  | some address =>
    address.isOpen == address.isClosed && address.colons ≤ 1 && !address.hasPercent &&
      text.getLast? != some '@'

/-! ## Targets -/

/-- The name of a scheme has so many characters at most. -/
def maxSchemeLength : Nat := 64

/-- The text after a scheme with its colon and slashes. A text without a scheme is
given as none. -/
def afterScheme? (text : List Char) : Option (List Char) :=
  let scheme := text.takeWhile isSchemeChar
  match text.dropWhile isSchemeChar with
  | ':' :: '/' :: '/' :: rest => if scheme.length ≤ maxSchemeLength then some rest else none
  | _ => none

/-- The target behind an address, which has to name a host. -/
def afterAddress? (text : List Char) : Option Target :=
  let address := text.takeWhile fun c => !isAddressEnd c
  if address ≠ [] ∧ isAddress address then
    (pathAndQuery? (text.dropWhile fun c => !isAddressEnd c)).map rooted
  else none

/-- A target has so many characters at most. -/
def maxLength : Nat := 65534

/-- The target that a text writes. -/
def ofText? (text : String) : Option Target :=
  let cs := text.toList
  if cs.length > maxLength then none
  else
    match cs with
    | [] => none
    | ['*'] => some { path := "*" }
    | '/' :: _ => pathAndQuery? cs
    | _ =>
      match afterScheme? cs with
      | some rest => afterAddress? rest
      | none => if isAddress cs then some { path := "" } else none

end Target

end TableGateway.Http
