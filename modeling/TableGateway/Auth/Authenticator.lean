import TableGateway.Auth.KeyFile
import TableGateway.Auth.Token

-- Who may make requests. An authenticator lets all requests pass, or asks for
-- a bearer token that a key file is the key to.

namespace TableGateway

/-- The kind of key that a key file holds. -/
inductive KeyKind where
  | rsaPublicKey
  | sharedSecret
deriving Repr, DecidableEq

/-- Asks for tokens of one kind of key, or for nothing. -/
inductive Authenticator where
  | disabled
  | enabled (kind : KeyKind) (path : String)
deriving Repr, DecidableEq

namespace Authenticator

/-- All requests pass. -/
def isDisabled : Authenticator → Bool
  | disabled => true
  | enabled _ _ => false

/-- The token of a header: what follows the word for it and one space. -/
def bearer? (header : String) : Option String :=
  match Text.cutAt ' ' header with
  | some (scheme, token) => if Text.sameLetters scheme "bearer" then some token else none
  | none => none

/-- The key in a file. -/
def keyOf (kind : KeyKind) (content : List UInt8) : Except TokenFault Token.Key :=
  match kind with
  | .rsaPublicKey => Token.Key.ofPem content
  | .sharedSecret => .ok (.secret content)

/-- A reason to refuse a token, as a fault of the request. -/
def refused (fault : TokenFault) : Fault :=
  .unauthorized fault.message

/-- Checks a token with the content of the key file. -/
def verify (kind : KeyKind) (now : Nat) (token : String) (content : List UInt8) :
    Except Fault Unit :=
  ((keyOf kind content).bind fun key => Token.check key now token).mapError refused

/-- Checks a token with the key file, which is read first. -/
def verifyWith (kind : KeyKind) (now : Nat) (token : String) (content : Except Fault (List UInt8)) :
    Except Fault Unit :=
  match content with
  | .error e => .error (.unauthorized e.message)
  | .ok content => verify kind now token content

/-- The token of an authorization header. A header that is empty counts as none. -/
def tokenOf (header : Option String) : Except Fault String :=
  match header.filter (· ≠ "") with
  | none => .error (.unauthorized "missing auth header")
  | some header =>
    match bearer? header with
    | none => .error (.unauthorized "invalid auth header")
    | some token => .ok token

/-- Checks an authorization header. The key file is read only if there is a
token, and what is kept of the file afterwards comes with the verdict. -/
def authenticate (authenticator : Authenticator) (keyFile : Except String KeyFile) (now : Nat)
    (cache : KeyFile.Cache) (header : Option String) : Except Fault Unit × KeyFile.Cache :=
  match authenticator with
  | disabled => (.ok (), cache)
  | enabled kind _ =>
    match tokenOf header with
    | .error e => (.error e, cache)
    | .ok token =>
      let (content, kept) := KeyFile.read keyFile cache
      (verifyWith kind now token content, kept)

end Authenticator

end TableGateway
