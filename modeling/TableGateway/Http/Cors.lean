import TableGateway.Http.Reception
import TableGateway.Text.Blank

-- Requests from pages of other origins. Browsers ask first what they may send,
-- and look for permission in every response.

namespace TableGateway.Http

/-- Which origins may make requests: all, or those of a list. -/
inductive CorsPolicy where
  | permissive
  | listed (origins : List String)
deriving Repr, DecidableEq

/-- Why a question of a browser is refused. -/
inductive CorsFault where
  | missingOrigin
  | originNotAllowed
  | methodNotAllowed
  | invalidHeaders
  | headersNotAllowed
deriving Repr, DecidableEq

/-- The words for a refusal. -/
def CorsFault.message : CorsFault → String
  | .missingOrigin => "Request header `Origin` is required but was not provided"
  | .originNotAllowed => "Origin is not allowed to make this request"
  | .methodNotAllowed => "Requested method is not allowed"
  | .invalidHeaders => "Request header `Access-Control-Request-Headers` has an invalid value"
  | .headersNotAllowed => "One or more request headers are not allowed"

namespace CorsPolicy

/-! ## What is allowed -/

/-- An empty list of origins, or a star among them, lets all origins in. -/
def ofOrigins (origins : List String) : CorsPolicy :=
  if origins.isEmpty || origins.contains "*" then .permissive else .listed origins

/-- The origin may make requests. Origins are compared byte by byte. -/
def allowsOrigin : CorsPolicy → String → Bool
  | .permissive, _ => true
  | .listed origins, origin => origins.contains origin

/-- The methods that may be used. -/
def methods : CorsPolicy → List String
  | .permissive =>
    ["CONNECT", "DELETE", "GET", "HEAD", "OPTIONS", "PATCH", "POST", "PUT", "TRACE"]
  | .listed _ => ["DELETE", "GET", "OPTIONS", "PATCH", "POST", "PUT"]

/-- The request headers that may be used, where not all may. -/
def requestHeaders : List String :=
  ["accept", "authorization", "content-type", "prefer", "range"]

/-- The response headers that pages may read, where not all may. -/
def exposedHeaders : List String :=
  ["content-range", "range-unit"]

/-- Names in the value of a header. -/
def nameList (names : List String) : String :=
  Text.joined ", " names

/-! ## Names of headers -/

def originName : String := "origin"
def requestMethodName : String := "access-control-request-method"
def requestHeadersName : String := "access-control-request-headers"
def allowOriginName : String := "access-control-allow-origin"
def allowMethodsName : String := "access-control-allow-methods"
def allowHeadersName : String := "access-control-allow-headers"
def exposeHeadersName : String := "access-control-expose-headers"
def maxAgeName : String := "access-control-max-age"

/-- Pages may send what identifies a user. -/
def credentials : CorsPolicy → List (String × String)
  | .permissive => [("access-control-allow-credentials", "true")]
  | .listed _ => []

/-- The response depends on these headers of the request. -/
def vary : String × String :=
  ("vary", "Origin, Access-Control-Request-Method, Access-Control-Request-Headers")

/-! ## Questions before a request -/

/-- A name that a browser may ask for. It may hold quotation marks, although no
header has such a name. -/
def isAskedName (name : String) : Bool :=
  name ≠ "" && name.toList.all fun c => MediaType.isTokenChar c || c == '"'

/-- The method that a browser asks for, if the request is such a question. -/
def requestedMethod? (message : Message) : Option String :=
  if message.method = "OPTIONS" then
    (message.plainHeader? requestMethodName).filter fun method => isMethod method
  else none

/-- Refuses an origin that is not of the list. -/
def checkOrigin (policy : CorsPolicy) (origin : Option String) : Except CorsFault Unit :=
  match policy, origin with
  | .permissive, _ => .ok ()
  | .listed _, none => .error .missingOrigin
  | .listed origins, some origin =>
    if origins.contains origin then .ok () else .error .originNotAllowed

/-- Refuses a method that may not be used, in exactly these letters. -/
def checkMethod (policy : CorsPolicy) (method : String) : Except CorsFault Unit :=
  if policy.methods.contains method then .ok () else .error .methodNotAllowed

/-- Refuses names of headers that are none, or that may not be used. -/
def checkHeaders (policy : CorsPolicy) (message : Message) : Except CorsFault Unit :=
  match policy, message.header? requestHeadersName with
  | .permissive, _ => .ok ()
  | .listed _, none => .ok ()
  | .listed _, some value =>
    let names := (Text.pieces ',' value).map Text.trim
    if !(value.toList.all Message.isPlain && names.all isAskedName) then .error .invalidHeaders
    else if (names.map Text.lower).all requestHeaders.contains then .ok ()
    else .error .headersNotAllowed

/-- The headers that a page may use, for a question that names some. -/
def allowedHeaders (policy : CorsPolicy) (message : Message) : List (String × String) :=
  match policy with
  | .permissive =>
    ((message.header? requestHeadersName).map fun value => (allowHeadersName, value)).toList
  | .listed _ => [(allowHeadersName, nameList requestHeaders)]

/-- The header that names an origin, where it is let in. -/
def allowedOrigin (policy : CorsPolicy) (message : Message) : List (String × String) :=
  (((message.header? originName).filter policy.allowsOrigin).map
    fun origin => (allowOriginName, origin)).toList

/-- Permission for what a browser asked for. -/
def permission (policy : CorsPolicy) (message : Message) : Response where
  status := 200
  headers := policy.allowedOrigin message ++ [(allowMethodsName, nameList policy.methods)] ++
    policy.allowedHeaders message ++ policy.credentials ++ [(maxAgeName, "3600"), vary]

/-- The answer to a question of a browser. -/
def preflight (policy : CorsPolicy) (message : Message) (method : String) : Response :=
  let verdict := do
    policy.checkOrigin (message.header? originName)
    policy.checkMethod method
    policy.checkHeaders message
  match verdict with
  | .ok () => policy.permission message
  | .error fault => { status := 400, body := fault.message }

/-! ## Responses to requests -/

/-- The response headers that a page may read. With all of them allowed, these
are the ones that are there. -/
def exposed (policy : CorsPolicy) (headers : List (String × String)) : List (String × String) :=
  match policy with
  | .listed _ => [(exposeHeadersName, nameList exposedHeaders)]
  | .permissive =>
    if headers.isEmpty then []
    else [(exposeHeadersName, nameList (Text.inOrder (headers.map Prod.fst)))]

/-- A response with permission for the page that made the request. -/
def permitted (policy : CorsPolicy) (message : Message) (response : Response) : Response :=
  let headers := response.headers ++ policy.allowedOrigin message
  { response with
    headers := headers ++ policy.exposed headers ++ policy.credentials ++ [vary] }

end CorsPolicy

end TableGateway.Http
