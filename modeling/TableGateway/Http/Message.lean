import TableGateway.Fault
import TableGateway.Http.Target
import TableGateway.Request

-- Requests and responses as connections carry them.

namespace TableGateway

namespace Http

/-! ## Requests -/

/-- A request: its method, its target, its headers in order, and its body. -/
structure Message where
  method : String
  target : String
  headers : List (String × String) := []
  body : List UInt8 := []
deriving Repr, DecidableEq

namespace Message

/-- A character that the value of a header may hold and be read as text: one
that is seen, a space or a tab. -/
def isPlain (c : Char) : Bool :=
  (0x20 ≤ c.toNat && c.toNat < 0x7F) || c == '\t'

/-- The values of the headers of a name, in any letter case and in order. -/
def headerValues (message : Message) (name : String) : List String :=
  (message.headers.filter fun entry => Text.sameLetters entry.1 name).map Prod.snd

/-- The value of the first header of a name. -/
def header? (message : Message) (name : String) : Option String :=
  (message.headerValues name).head?

/-- The value of the first header of a name, if it can be read as text. -/
def plainHeader? (message : Message) (name : String) : Option String :=
  (message.header? name).filter fun value => value.toList.all isPlain

/-- The values of the headers of a name that can be read as text. -/
def plainValues (message : Message) (name : String) : List String :=
  (message.headerValues name).filter fun value => value.toList.all isPlain

/-- Spaces and tabs around the value of a header. -/
def isPadding (c : Char) : Bool :=
  c == ' ' || c == '\t'

/-- A value without spaces and tabs at either end. -/
def unpadded (value : String) : String :=
  String.ofList
    ((value.toList.dropWhile isPadding).reverse.dropWhile isPadding).reverse

/-- The message as it is read from a connection: what pads the values of its
headers is not part of them. -/
def received (message : Message) : Message :=
  { message with headers := message.headers.map fun entry => (entry.1, unpadded entry.2) }

/-! ## Targets -/

/-- The path of the target, as it is written. -/
def path (message : Message) : String :=
  ((Target.ofText? message.target).map Target.path).getD ""

/-- The query string of the target, as it is written. -/
def query (message : Message) : String :=
  ((Target.ofText? message.target).map Target.query).getD ""

/-- What statements are made from: the query, the headers that matter for them,
and the body. -/
def request (message : Message) (body : List UInt8) : Request where
  params := .ofQuery message.query
  headers := [Request.rangeName, Request.preferName, Request.contentTypeName].flatMap
    fun name => (message.plainValues name).map fun value => (name, value)
  body := body

end Message

/-! ## Responses -/

/-- A response: its status, its headers and its body. -/
structure Response where
  status : Nat
  headers : List (String × String) := []
  body : String := ""
deriving Repr, DecidableEq

namespace Response

/-- The header with the media type of a body. -/
def contentType : String × String := ("content-type", "application/json")

/-- A response with a JSON body. -/
def json (status : Nat) (body : String) : Response :=
  { status, headers := [contentType], body }

/-- A response that reports a fault. -/
def ofFault (fault : Fault) : Response :=
  json fault.status fault.body

/-- The response to a request that nothing answers to. -/
def notFound : Response :=
  { status := 404 }

end Response

end Http

end TableGateway
