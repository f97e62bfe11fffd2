import TableGateway.Json.ReadError
import TableGateway.Json.Writer

-- Why a request, a configuration or a start is refused: the causes, their
-- words, and what a client sees of them.

namespace TableGateway

/-- A reason to refuse. -/
inductive Fault where
  | badRequest (hint : String)
  | unsupportedMediaType
  | unsupportedOperator (operator : String)
  | invalidOrder (clause : String)
  | decode (error : Json.ReadError)
  | unauthorized (reason : String)
  | accessRestricted
  | database (text : String)
  | config (text : String)
  | internal (text : String)
  | io (text : String)
deriving Repr, DecidableEq

namespace Fault

/-! ## Codes -/

/-- The lasting name of a kind of fault. -/
def code : Fault → String
  | badRequest _ => "bad_request"
  | unsupportedMediaType => "unsupported_media_type"
  | unsupportedOperator _ => "unsupported_operator"
  | invalidOrder _ => "invalid_order"
  | decode _ => "decode_error"
  | unauthorized _ => "unauthorized"
  | accessRestricted => "access_restricted"
  | database _ => "database_error"
  | config _ => "config_error"
  | internal _ => "internal_error"
  | io _ => "io_error"

/-- The status of a response that reports the fault. -/
def status : Fault → Nat
  | badRequest _ | unsupportedOperator _ | invalidOrder _ | decode _ => 400
  | unauthorized _ => 401
  | accessRestricted => 403
  | unsupportedMediaType => 415
  | database _ | config _ | internal _ | io _ => 500

/-! ## Words -/

/-- The words for an operator that is not supported. -/
def operatorHint (operator : String) : String :=
  "operator " ++ Text.quoted operator ++ " is unsupported"

/-- The words for an order clause that is not valid. -/
def orderHint (clause : String) : String :=
  "invalid order by clause: " ++ clause

/-- All that is known of a fault, in one line. -/
def message : Fault → String
  | badRequest hint => "Bad Request - " ++ hint
  | unsupportedMediaType => "Unsupported Media Type"
  | unsupportedOperator operator => "Unsupported Operator - " ++ operatorHint operator
  | invalidOrder clause => orderHint clause
  | decode error => "JSON decode error: " ++ error.message
  | unauthorized reason => "Unauthorized - " ++ reason
  | accessRestricted => "Access Restricted"
  | database text => "Database error: " ++ text
  | config text => "Configuration error: " ++ text
  | internal text => "Internal error: " ++ text
  | io text => "IO error: " ++ text

/-- What a client is told first. -/
def short : Fault → String
  | badRequest _ => "Bad Request"
  | unsupportedOperator _ => "Unsupported Operator"
  | unauthorized _ => "Unauthorized"
  | fault => fault.message

/-- What a client is told of the cause, where there is more to tell. -/
def hint? : Fault → Option String
  | badRequest hint => some hint
  | unauthorized reason => some reason
  | unsupportedOperator operator => some (operatorHint operator)
  | invalidOrder clause => some (orderHint clause)
  | _ => none

/-! ## The body of a response -/

/-- A member of the body. -/
def bodyMember (name text : String) : List Char :=
  Json.stringChars name ++ ':' :: Json.stringChars text

/-- The body of a response that reports the fault: the message, the code, and
the hint where there is one, in this order. -/
def body (fault : Fault) : String :=
  let members := bodyMember "message" fault.short ++ ',' :: bodyMember "code" fault.code
  let hint := (fault.hint?.map fun text => ',' :: bodyMember "hint" text).getD []
  String.ofList (Json.openBrace :: members ++ hint ++ [Json.closeBrace])

end Fault

end TableGateway
