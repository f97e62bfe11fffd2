import TableGateway.Query.Params

-- What a statement is made from: the parameters, the headers and the body of
-- a request.

namespace TableGateway

/-- The part of a request that statements are made from. -/
structure Request where
  params : Params := {}
  headers : List (String × String) := []
  body : List UInt8 := []
deriving Repr, DecidableEq, Inhabited

namespace Request

/-! ## Headers -/

/-- The value of the first header of a name, in any letter case. A first header
that is empty counts as no header. -/
def header? (request : Request) (name : String) : Option String :=
  ((request.headers.find? fun entry => Text.sameLetters entry.1 name).map Prod.snd).filter
    (· ≠ "")

/-- The header with a row range. -/
def rangeName : String := "range"

/-- The header with the wishes of the client. -/
def preferName : String := "prefer"

/-- The header with the media type of the body. -/
def contentTypeName : String := "content-type"

end Request

end TableGateway
