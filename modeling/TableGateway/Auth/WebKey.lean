import TableGateway.Auth.Algorithm

-- Keys that a token carries in its header. They are not used to check the
-- token, but a header with a key that makes no sense is refused.

namespace TableGateway.WebKey

/-- What a key is called in messages. -/
def name : String := "struct Jwk"

/-- The members of a key, as they are written. -/
abbrev Members := List (String × Json.Value)

/-! ## Values of members -/

/-- What the value of a member has to be. -/
abbrev Check := Json.Value → Except Json.Cause Unit

/-- Refuses a value of another kind than the one that is expected. -/
def refuse (value : Json.Value) (expected : String) : Except Json.Cause Unit :=
  .error (.wrongType (.ofValue value) expected)

/-- A string. -/
def text : Check
  | .string _ => .ok ()
  | other => refuse other "a string"

/-- A list of strings. -/
def texts : Check
  | .array items => items.forM text
  | other => refuse other "a sequence"

/-- Null, or an object without members. -/
def nothing : Check
  | .null | .object [] => .ok ()
  | other => refuse other "unit"

/-- Null, or a value that passes a check. -/
def optional (check : Check) : Check
  | .null => .ok ()
  | other => check other

/-! ## Members of all keys -/

/-- The names of algorithms for encrypting keys. -/
def encryptionNames : List String :=
  ["RSA1_5", "RSA-OAEP", "RSA-OAEP-256"]

/-- The algorithms that a key may be for: those of tokens, and those for
encrypting keys. -/
def algorithmNames : List String :=
  Algorithm.all.map Algorithm.name ++ encryptionNames

/-- The name of an algorithm that a key may be for. -/
def known (name : String) : Except Json.Cause Unit :=
  if name ∈ algorithmNames then .ok () else .error (.unknownVariant name algorithmNames)

/-- The algorithm that a key is for: its name, or an object with this name alone. -/
def algorithm : Check
  | .string name => known name
  | .object [(name, value)] => do
    known name
    nothing value
  | .object _ => .error (.wrongValue .map "map with a single key")
  | other => refuse other "string or map"

/-- The members that a key of any kind may have. -/
def commonMembers : List (String × Check) :=
  [("use", text), ("key_ops", texts), ("alg", algorithm), ("kid", text), ("x5u", text),
    ("x5c", texts), ("x5t", text), ("x5t#S256", text)]

/-- Checks the members that keys of any kind may have, in the order of the text.
`seen` holds the names of those that came before. -/
def checkCommon : List String → Members → Except Json.Cause Unit
  | _, [] => .ok ()
  | seen, (name, value) :: rest =>
    match commonMembers.lookup name with
    | none => checkCommon seen rest
    | some check =>
      if name ∈ seen then .error (.duplicateField name)
      else do
        optional check value
        checkCommon (name :: seen) rest

/-! ## Kinds of keys -/

/-- A kind of key: its name, whether it names a curve, and the strings that make
it up. -/
structure Kind where
  name : String
  hasCurve : Bool
  strings : List String
deriving Repr, DecidableEq

/-- The kinds of keys. -/
def kinds : List Kind :=
  [⟨"EC", true, ["x", "y"]⟩, ⟨"RSA", false, ["n", "e"]⟩, ⟨"oct", false, ["k"]⟩,
    ⟨"OKP", true, ["x"]⟩]

/-- The names of curves. -/
def curves : List String :=
  ["P-256", "P-384", "P-521", "Ed25519"]

/-- The value of a name that comes exactly once. -/
def only? (members : Members) (name : String) : Option Json.Value :=
  match members.filter fun member => member.1 == name with
  | [(_, value)] => some value
  | _ => none

/-- The value is one of these names: the name itself, or an object with this name
alone that holds null. -/
def isOneOf (names : List String) : Option Json.Value → Bool
  | some (.string name) => names.contains name
  | some (.object [(name, .null)]) => names.contains name
  | _ => false

/-- The value is a string. -/
def isText : Option Json.Value → Bool
  | some (.string _) => true
  | _ => false

/-- The members make up a key of this kind. -/
def Kind.fits (kind : Kind) (members : Members) : Bool :=
  isOneOf [kind.name] (only? members "kty") &&
    (!kind.hasCurve || isOneOf curves (only? members "crv")) &&
    kind.strings.all fun name => isText (only? members name)

/-! ## Keys -/

/-- Checks the members of a key. -/
def check (members : Members) : Except Json.Cause Unit := do
  checkCommon [] members
  if kinds.any fun kind => kind.fits members then .ok ()
  else .error (.noVariant "AlgorithmParameters")

/-- Reads a key whose values nest to a depth at most. What is wrong with its
members is told after its closing brace. -/
def read (depth : Nat) : Json.Reading Unit := fun text =>
  match Json.skipSpace text with
  | [] => .error ⟨.valueEnds, 0⟩
  | b :: rest =>
    if b = Text.byte Json.openBrace then do
      let (members, rest) ← Json.readObject (Json.readWritten depth) rest
      match check members with
      | .ok () => .ok ((), rest)
      | .error cause => .error ⟨cause, rest.length⟩
    else Json.refuse name (b :: rest)

end TableGateway.WebKey
