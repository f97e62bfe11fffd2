import TableGateway.Http.Reception
import TableGateway.Text.Numeral
import TableGateway.Text.Utf8

-- Requests and responses as bytes: a first line, headers, an empty line, and
-- as many bytes of a body as a header says.

namespace TableGateway.Http.Wire

/-! ## Reading requests -/

/-- The bytes of the first line, without the return before its end, and the bytes
after it. -/
def line? (bytes : List UInt8) : Option (List UInt8 × List UInt8) :=
  match bytes.dropWhile (· != 0x0A) with
  | [] => none
  | _ :: rest => some ((bytes.takeWhile (· != 0x0A)).filter (· != 0x0D), rest)

/-- The method and the target of a first line. -/
def opening? (line : List UInt8) : Option (String × String) :=
  match Text.pieces ' ' (Utf8.lossy line) with
  | [method, target, _] => some (method, target)
  | _ => none

/-- The name and the value of a header. -/
def header? (line : List UInt8) : Option (String × String) :=
  Text.cutAt ':' (Utf8.lossy line)

/-- The headers up to an empty line, and the bytes after it. Every line takes a
byte, so the number of bytes is fuel enough. -/
def headers? : Nat → List UInt8 → Option (List (String × String) × List UInt8)
  | 0, _ => none
  | fuel + 1, bytes => do
    let (line, rest) ← line? bytes
    if line.isEmpty then some ([], rest)
    else do
      let header ← header? line
      let (headers, rest) ← headers? fuel rest
      some (header :: headers, rest)

/-- The length of the body. A message that gives none has no body. -/
def bodyLength (message : Message) : Nat :=
  ((message.received.header? Message.lengthName).bind fun value =>
    Text.natural? value.toList).getD 0

/-- The headers without the first one of a name. -/
def withoutFirst (headers : List (String × String)) (name : String) : List (String × String) :=
  headers.eraseP fun header => Text.sameLetters header.1 name

/-- The headers without those that go without saying. -/
def withoutImplied (headers : List (String × String)) : List (String × String) :=
  Message.impliedNames.foldl withoutFirst headers

/-- The first request of a byte sequence, and the bytes after it. -/
def message? (bytes : List UInt8) : Option (Message × List UInt8) := do
  let (line, rest) ← line? bytes
  let (method, target) ← opening? line
  let (headers, rest) ← headers? (rest.length + 1) rest
  let message : Message := { method, target, headers }
  let length := bodyLength message
  some ({ message with headers := withoutImplied headers, body := rest.take length },
    rest.drop length)

/-- All requests of a byte sequence, up to the first thing that is none. -/
def messages : Nat → List UInt8 → List Message
  | 0, _ => []
  | fuel + 1, bytes =>
    match message? bytes with
    | some (message, rest) => message :: messages fuel rest
    | none => []

/-- All requests of a byte sequence. -/
def readMessages (bytes : List UInt8) : List Message :=
  messages bytes.length bytes

/-! ## Writing responses -/

/-- The words for a status. -/
def reason (status : Nat) : String :=
  match status with
  | 200 => "OK"
  | 201 => "Created"
  | 202 => "Accepted"
  | 400 => "Bad Request"
  | 401 => "Unauthorized"
  | 403 => "Forbidden"
  | 404 => "Not Found"
  | 406 => "Not Acceptable"
  | 413 => "Payload Too Large"
  | 415 => "Unsupported Media Type"
  | 431 => "Request Header Fields Too Large"
  | _ => "Internal Server Error"

/-- A number in decimal. -/
def decimal (n : Nat) : String :=
  String.ofList (Nat.toDigits 10 n)

/-- The end of a line. -/
def lineEnd : String := "\r\n"

/-- The text of a response. -/
def text (response : Response) : String :=
  let length := decimal (Text.bytes response.body).length
  let headers := response.headers ++ [(Message.lengthName, length)]
  "HTTP/1.1 " ++ decimal response.status ++ " " ++ reason response.status ++ lineEnd ++
    String.join (headers.map fun header => header.1 ++ ": " ++ header.2 ++ lineEnd) ++
    lineEnd ++ response.body

end TableGateway.Http.Wire
