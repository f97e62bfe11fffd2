import TableGateway.Auth.Algorithm
import TableGateway.Auth.TokenFault
import TableGateway.Auth.WebKey
import TableGateway.Digest.Hmac
import TableGateway.Digest.Rsa
import TableGateway.Encoding.KeyTree
import TableGateway.Encoding.Pem
import TableGateway.Text.Pieces

-- Signed tokens: a header, claims and a signature between points, each in
-- base64. A token counts if its header names an algorithm of the key, its
-- signature is that of header and claims, and its claims are an object that
-- has not expired.

namespace TableGateway.Token

/-! ## The parts of a token -/

/-- A token in three parts. `signed` is the text before the last point. -/
structure Parts where
  header : String
  claims : String
  signature : String
  signed : String
deriving Repr, DecidableEq

/-- The parts around the last two points. -/
def split? (token : String) : Option Parts := do
  let (signed, signature) ← Text.cutAtLast '.' token
  let (header, claims) ← Text.cutAtLast '.' signed
  some { header, claims, signature, signed }

/-- The bytes of a part. -/
def partBytes (part : String) : Except TokenFault (List UInt8) :=
  (Base64.decode Base64.forUrls (Text.bytes part)).mapError .base64

/-! ## The header -/

/-- A member of a header whose value is not needed. -/
def unused {α σ : Type} (name : String) (reading : Json.Reading α) : Json.Field σ where
  name := name
  read text := do
    let (_, rest) ← reading text
    .ok (id, rest)

/-- A member that is text or null. -/
def unusedText {σ : Type} (name : String) : Json.Field σ :=
  unused name (Json.readOptional Json.readText)

/-- A member that is a list of texts or null. -/
def unusedTexts {σ : Type} (name : String) : Json.Field σ :=
  unused name (Json.readOptional (Json.readList (fun _ => Json.readText) Json.maxDepth))

/-- The member that names the algorithm. -/
def algorithmField : Json.Field (Option Algorithm) where
  name := "alg"
  read text := do
    let (algorithm, rest) ← Algorithm.read text
    .ok (fun _ => some algorithm, rest)
  isRequired := true

/-- The member with a key. A key lies two brackets deep, so that its values nest
by two less than a text may. -/
def keyField {σ : Type} : Json.Field σ :=
  unused "jwk" (Json.readOptional (WebKey.read (Json.maxDepth - 2)))

/-- The members of a header. -/
def headerSchema : Json.Schema (Option Algorithm) where
  name := "struct Header"
  fields :=
    [unusedText "typ", algorithmField, unusedText "cty", unusedText "jku",
      keyField, unusedText "kid", unusedText "x5u", unusedTexts "x5c",
      unusedText "x5t", unusedText "x5t#S256"]

/-- The algorithm of a header. -/
def algorithm (header : String) : Except TokenFault (Option Algorithm) := do
  let bytes ← partBytes header
  (Json.readAll (headerSchema.read none) bytes).mapError .json

/-! ## The claims -/

/-- The whole number that is nearest to a fraction. A half goes up. -/
def nearest (f : Decimal.Fraction) : Nat :=
  (2 * f.top + f.bottom) / (2 * f.bottom)

/-- The moment that a number names. A fraction goes to the nearest whole second,
and a number below zero or beyond sixty-four bits names none. -/
def moment? : Json.Number → Option Nat
  | .whole n => if 0 ≤ n then some n.toNat else none
  | .float bits =>
    match Decimal.binary? bits with
    | none => none
    | some b =>
      let f := Decimal.Fraction.ofScaled b.magnitude b.exponent
      if b.negative ∧ b.magnitude ≠ 0 then none
      else if f.top < (Json.maxUInt64 + 1) * f.bottom then some (nearest f)
      else none

/-- Reads a number of seconds. A value of another kind counts as none. Of an
array or object only the brackets are read, so that one that is not empty breaks
the record. -/
def readMoment : Json.Reading (Option Nat) := fun text =>
  match Json.skipSpace text with
  | [] => .error ⟨.valueEnds, 0⟩
  | b :: rest =>
    if b = Text.byte '[' then
      match Json.skipSpace rest with
      | [] => .ok (none, [])
      | c :: after =>
        .ok (none, if c = Text.byte ']' ∨ c = Text.byte ',' then after else c :: after)
    else if b = Text.byte Json.openBrace then
      match Json.skipSpace rest with
      | [] => .ok (none, [])
      | c :: after => .ok (none, if c = Text.byte Json.closeBrace then after else c :: after)
    else do
      let (value, rest) ← Json.readScalar (b :: rest)
      match value with
      | .number n => .ok (moment? n, rest)
      | _ => .ok (none, rest)

/-- Reads the name of a subject. A value of another kind counts as none, and an
array or object is not read at all. -/
def readSubject : Json.Reading Unit := fun text =>
  match Json.skipSpace text with
  | [] => .error ⟨.valueEnds, 0⟩
  | b :: rest =>
    if b = Text.byte '[' ∨ b = Text.byte Json.openBrace then .ok ((), b :: rest)
    else do
      let (_, rest) ← Json.readScalar (b :: rest)
      .ok ((), rest)

/-- The member with the moment at which a token expires. -/
def expiryField : Json.Field (Option Nat) where
  name := "exp"
  read text := do
    let (moment, rest) ← readMoment text
    .ok (fun _ => moment, rest)
  mayEnd := true

/-- The members of claims that are looked at. -/
def claimsSchema : Json.Schema (Option Nat) where
  name := "struct ClaimsForValidation"
  fields :=
    [expiryField, { (unused "nbf" readMoment : Json.Field (Option Nat)) with mayEnd := true },
      unused "sub" readSubject, unused "iss" Json.readAnything, unused "aud" Json.readAnything]

/-- The moment at which claims expire, if they do. The claims have to be a JSON
text as a whole first. -/
def expiry (claims : String) : Except TokenFault (Option Nat) := do
  let bytes ← partBytes claims
  let _ ← (Json.read bytes).mapError .json
  (Json.readAll (claimsSchema.read none) bytes).mapError .json

/-- The seconds for which a token counts after it has expired. -/
def leeway : Nat := 60

/-- Refuses claims that expired before a moment, with leeway. -/
def checkExpiry (now : Nat) (expiry : Option Nat) : Except TokenFault Unit :=
  match expiry with
  | some moment => if moment < now - leeway then .error .expiredSignature else .ok ()
  | none => .ok ()

/-! ## Keys and signatures -/

/-- A key: a secret that both sides share, or the bytes of a public RSA key. -/
inductive Key where
  | secret (bytes : List UInt8)
  | rsa (der : List UInt8)
deriving Repr, DecidableEq

/-- The kind of keys that an identifier names: `true` for RSA. -/
def isRsaIdentifier? : KeyTree.Tree → Option Bool
  | .identifier arcs =>
    if arcs = KeyTree.rsaKeys then some true
    else if arcs = KeyTree.curveKeys ∨ arcs = KeyTree.edwardsKeys then some false
    else none
  | _ => none

/-- The content of a string of bits or bytes. -/
def keyString? : KeyTree.Tree → Option (List UInt8)
  | .bits content | .bytes content => some content
  | _ => none

/-- The public key inside the elements of a key of any kind, below the name of its
kind. -/
def Key.ofTrees (trees : List KeyTree.Tree) : Except TokenFault Key :=
  match KeyTree.find? isRsaIdentifier? trees, KeyTree.find? keyString? trees with
  | some true, some content => .ok (.rsa content)
  | some true, none => .error .invalidEcdsaKey
  | _, _ => .error .invalidKeyFormat

/-- The labels of blocks that hold an RSA key itself. -/
def rsaLabels : List String :=
  ["RSA PUBLIC KEY", "RSA PRIVATE KEY"]

/-- The labels of blocks that hold a key of any kind. -/
def keyLabels : List String :=
  ["PUBLIC KEY", "PRIVATE KEY", "CERTIFICATE"]

/-- The public key of a key file. -/
def Key.ofPem (file : List UInt8) : Except TokenFault Key :=
  match Pem.parse? file with
  | none => .error .invalidKeyFormat
  | some block =>
    match KeyTree.ofBytes? block.content with
    | none => .error .invalidKeyFormat
    | some trees =>
      if block.label ∈ rsaLabels then .ok (.rsa block.content)
      else if block.label ∈ keyLabels then Key.ofTrees trees
      else .error .invalidKeyFormat

/-- The signature of a text with a shared secret, as a token writes it. -/
def secretSignature (v : Digest.Sha2) (secret : List UInt8) (signed : String) : List UInt8 :=
  Base64.encode Base64.forUrls (Digest.hmac v secret (Text.bytes signed))

/-- The hash function that an algorithm goes with for a key. -/
def Key.hash? : Key → Algorithm → Option Digest.Sha2
  | .secret _, algorithm => algorithm.secretHash?
  | .rsa _, algorithm => algorithm.rsaHash?

/-- The signature is that of the text, for a hash function. -/
def Key.verifies (key : Key) (v : Digest.Sha2) (signed signature : String) :
    Except TokenFault Bool :=
  match key with
  | .secret bytes => .ok (Text.bytes signature == secretSignature v bytes signed)
  | .rsa der => do
    let bytes ← partBytes signature
    match Digest.RsaKey.ofDer? der with
    | some publicKey => return publicKey.verifies v (Text.bytes signed) bytes
    | none => return false

/-! ## Checking a token -/

/-- The hash function of the algorithm that a header names, which has to be one
of the key. -/
def headerHash (key : Key) (header : String) : Except TokenFault Digest.Sha2 := do
  match (← algorithm header).bind key.hash? with
  | some v => return v
  | none => .error .invalidAlgorithm

/-- Refuses a signature that is not that of the token. -/
def checkSignature (key : Key) (v : Digest.Sha2) (parts : Parts) : Except TokenFault Unit := do
  if ← key.verifies v parts.signed parts.signature then return ()
  else .error .invalidSignature

/-- Checks a token at a moment: its parts, its algorithm, its signature and its
claims. -/
def check (key : Key) (now : Nat) (token : String) : Except TokenFault Unit :=
  match split? token with
  | none => .error .invalidToken
  | some parts => do
    let v ← headerHash key parts.header
    checkSignature key v parts
    checkExpiry now (← expiry parts.claims)

end TableGateway.Token
