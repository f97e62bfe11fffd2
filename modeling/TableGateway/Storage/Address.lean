import TableGateway.Query.Form

-- Names of database files that are written as addresses: a scheme, perhaps a
-- host, a path, options after a question mark, and a part after a hash that
-- stands for nothing.

namespace TableGateway

/-- An address: the path and the options in order. -/
structure Address where
  path : String
  options : List (String × String) := []
deriving Repr, DecidableEq

namespace Address

/-- The word that an address starts with. -/
def scheme : List Char := "file:".toList

/-- A part of an address with percent signs decoded, as far as the first zero. -/
def decoded (cs : List Char) : String :=
  let bytes := Query.percentDecoded (fun _ => true) (Text.bytes (String.ofList cs))
  Utf8.lossy (bytes.takeWhile (· ≠ 0))

/-- The option of a piece. One without an equals sign is empty. -/
def optionOf (piece : List Char) : String × String :=
  match Text.cutChars '=' piece with
  | some (name, value) => (decoded name, decoded value)
  | none => (decoded piece, "")

/-- The options of a text. Those without a name do not count. -/
def optionsOf (cs : List Char) : List (String × String) :=
  ((Text.split (· == '&') cs).map optionOf).filter fun pair => pair.1 ≠ ""

/-- The address of a path and options. -/
def ofBody (cs : List Char) : Address :=
  match Text.cutChars '?' cs with
  | some (path, rest) => { path := decoded path, options := optionsOf rest }
  | none => { path := decoded cs }

/-- The address that a text writes after the scheme, or else the words for a host
that is not this one. -/
def read (cs : List Char) : Except String Address :=
  let beforeHash (cs : List Char) : List Char := cs.takeWhile (· ≠ '#')
  match cs with
  | '/' :: '/' :: rest =>
    let host := String.ofList (rest.takeWhile (· ≠ '/'))
    if host = "" ∨ host = "localhost" then .ok (ofBody (beforeHash (rest.dropWhile (· ≠ '/'))))
    else .error ("invalid uri authority: " ++ host)
  | cs => .ok (ofBody (beforeHash cs))

/-- The address that a name writes, if it has the scheme of one. -/
def ofName? (name : String) : Option (Except String Address) :=
  if scheme.isPrefixOf name.toList then some (read (name.toList.drop scheme.length)) else none

end Address

end TableGateway
