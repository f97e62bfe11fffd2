import TableGateway.Digest.Sha2
import TableGateway.Json.Record

-- The algorithms that tokens are signed with.

namespace TableGateway

/-- The algorithms that a token may name. -/
inductive Algorithm where
  | hs256 | hs384 | hs512
  | es256 | es384
  | rs256 | rs384 | rs512
  | ps256 | ps384 | ps512
  | edDsa
deriving Repr, DecidableEq

namespace Algorithm

/-- All algorithms. -/
def all : List Algorithm :=
  [hs256, hs384, hs512, es256, es384, rs256, rs384, rs512, ps256, ps384, ps512, edDsa]

/-- The name of an algorithm. -/
def name : Algorithm → String
  | hs256 => "HS256"
  | hs384 => "HS384"
  | hs512 => "HS512"
  | es256 => "ES256"
  | es384 => "ES384"
  | rs256 => "RS256"
  | rs384 => "RS384"
  | rs512 => "RS512"
  | ps256 => "PS256"
  | ps384 => "PS384"
  | ps512 => "PS512"
  | edDsa => "EdDSA"

/-- The algorithm of a name, in exactly these letters. -/
def ofName? (name : String) : Option Algorithm :=
  all.find? fun algorithm => algorithm.name == name

/-- The hash function of an algorithm with a shared secret. -/
def secretHash? : Algorithm → Option Digest.Sha2
  | hs256 => some .sha256
  | hs384 => some .sha384
  | hs512 => some .sha512
  | _ => none

/-- The hash function of an algorithm with an RSA key and plain padding. -/
def rsaHash? : Algorithm → Option Digest.Sha2
  | rs256 => some .sha256
  | rs384 => some .sha384
  | rs512 => some .sha512
  | _ => none

/-- The name of an algorithm, after its opening quote. -/
def readName : Json.Reading Algorithm := fun text => do
  let (name, rest) ← Json.readString text
  match ofName? name with
  | some algorithm => .ok (algorithm, rest)
  | none => .error ⟨.unknownVariant name (all.map Algorithm.name), rest.length⟩

/-- The first name of an object, after its opening brace. An object without names
has no value to offer. -/
def readMemberName : Json.Reading Algorithm := fun text =>
  match Json.skipSpace text with
  | [] => .error ⟨.objectEnds, 0⟩
  | b :: rest =>
    if b = Text.byte '"' then readName rest
    else
      let cause := if b = Text.byte Json.closeBrace then .expectedValue else .keyNotString
      .error ⟨cause, rest.length⟩

/-- The name of an algorithm as the only name of an object, after its opening
brace. Its value is null. -/
def readMember : Json.Reading Algorithm := fun text => do
  let (algorithm, rest) ← readMemberName text
  let ((), rest) ← Json.readColon rest
  let ((), rest) ← match Json.skipSpace rest with
    | [] => .error ⟨.valueEnds, 0⟩
    | b :: rest =>
      if b = Text.byte 'n' then Json.readWord () (Text.bytes "ull") rest
      else Json.refuse "unit" (b :: rest)
  match Json.skipSpace rest with
  | [] => .error ⟨.objectEnds, 0⟩
  | b :: rest =>
    if b = Text.byte Json.closeBrace then .ok (algorithm, rest)
    else .error ⟨.expectedValue, rest.length + 1⟩

/-- An algorithm in a header: its name, or an object with this name. -/
def read : Json.Reading Algorithm := fun text =>
  match Json.skipSpace text with
  | [] => .error ⟨.valueEnds, 0⟩
  | b :: rest =>
    if b = Text.byte '"' then readName rest
    else if b = Text.byte Json.openBrace then readMember rest
    else .error ⟨.expectedValue, rest.length⟩

end Algorithm

end TableGateway
