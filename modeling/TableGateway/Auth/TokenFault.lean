import TableGateway.Encoding.Base64
import TableGateway.Json.ReadError

-- Why a token is refused.

namespace TableGateway

/-- A reason to refuse a token. -/
inductive TokenFault where
  | invalidToken
  | base64 (fault : Base64.Fault)
  | json (error : Json.ReadError)
  | invalidAlgorithm
  | invalidSignature
  | expiredSignature
  | invalidKeyFormat
  | invalidEcdsaKey
deriving Repr, DecidableEq

/-- The words for a reason. -/
def TokenFault.message : TokenFault → String
  | .invalidToken => "InvalidToken"
  | .base64 fault => "Base64 error: " ++ fault.message
  | .json error => "JSON error: " ++ error.message
  | .invalidAlgorithm => "InvalidAlgorithm"
  | .invalidSignature => "InvalidSignature"
  | .expiredSignature => "ExpiredSignature"
  | .invalidKeyFormat => "InvalidKeyFormat"
  | .invalidEcdsaKey => "InvalidEcdsaKey"

end TableGateway
