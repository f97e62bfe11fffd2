import TableGateway.Http.Message
import TableGateway.MediaType

-- What a connection takes in. Messages that make no sense are turned away
-- before anything else looks at them, with a status alone.

namespace TableGateway.Http

/-! ## Methods -/

/-- The marks of tokens that methods do not hold. -/
def marksOutsideMethods : List Char :=
  "#$%&'".toList

/-- The characters of methods. -/
def isMethodChar (c : Char) : Bool :=
  MediaType.isTokenChar c && !marksOutsideMethods.contains c

/-- A text that can be a method. -/
def isMethod (text : String) : Bool :=
  text ≠ "" && text.toList.all isMethodChar

/-! ## Headers -/

/-- A text that can be the name of a header. -/
def isHeaderName (text : String) : Bool :=
  text ≠ "" && text.toList.all MediaType.isTokenChar

/-- The characters that the value of a header may hold: all but control
characters, of which tabs alone are allowed. -/
def isValueChar (c : Char) : Bool :=
  c == '\t' || (0x20 ≤ c.toNat && c.toNat != 0x7F)

/-- A header that can be read. -/
def isHeader (header : String × String) : Bool :=
  isHeaderName header.1 && header.2.toList.all isValueChar

/-- A message may have so many headers. -/
def maxHeaders : Nat := 96

namespace Message

/-- The header with the length of a body. -/
def lengthName : String := "content-length"

/-- The headers that every message has without naming them. One more of the length
is one too many. -/
def impliedNames : List String :=
  ["host", "connection", lengthName]

/-- The header that tells how a body is sent. -/
def transferName : String := "transfer-encoding"

/-- The ways to send a body. -/
def transfers : List String :=
  ["chunked", "identity"]

/-- A message says in one way at most how its body is sent, and that way is known. -/
def hasKnownTransfer (message : Message) : Bool :=
  match message.headerValues transferName with
  | [] => true
  | [value] => transfers.any fun transfer => Text.sameLetters transfer value
  | _ => false

/-- The status with which a message is turned away. -/
def refusal? (message : Message) : Option Nat :=
  if !message.headers.all isHeader then some 400
  else if message.headers.length + impliedNames.length > maxHeaders then some 431
  else if !isMethod message.method || (Target.ofText? message.target).isNone then some 400
  else if (message.header? lengthName).isSome || !message.hasKnownTransfer then some 400
  else none

end Message

end TableGateway.Http
