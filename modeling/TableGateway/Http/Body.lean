import TableGateway.Coding.Brotli.Stream
import TableGateway.Coding.Gzip
import TableGateway.Coding.Zlib
import TableGateway.Coding.Zstd.Frame
import TableGateway.Http.Reception
import TableGateway.Text.Blank
import TableGateway.Text.Numeral

-- Bodies of requests, without the coding that they were sent in. They may not be
-- greater than a limit, which counts for what is decoded.

namespace TableGateway.Http

/-! ## Codings -/

/-- How a body is coded. -/
inductive BodyCoding where
  | plain
  | gzip
  | deflate
  | brotli
  | zstd
deriving Repr, DecidableEq

namespace BodyCoding

/-- The codings by their names. -/
def named : List (String × BodyCoding) :=
  [("gzip", gzip), ("deflate", deflate), ("br", brotli), ("zstd", zstd)]

/-- The coding of a name, in any letter case. What is not known counts as plain. -/
def ofName (name : String) : BodyCoding :=
  ((named.find? fun entry => Text.sameLetters entry.1 (Text.trim name)).map Prod.snd).getD plain

/-- Decodes bytes. -/
def decode (coding : BodyCoding) (data : ByteArray) : Except Coding.Fault Coding.Decoded :=
  match coding with
  | plain => .ok { bytes := data }
  | gzip => Coding.Gzip.decode data
  | deflate => Coding.Zlib.decode data
  | brotli => Coding.Brotli.decode data
  | zstd => Coding.Zstd.decode data

end BodyCoding

/-! ## Faults -/

/-- Why a body is refused. -/
inductive BodyFault where
  | tooLong
  | unknownLength
  | broken (fault : Coding.Fault)
deriving Repr, DecidableEq

namespace BodyFault

/-- The status of the response to a body that is refused. -/
def status : BodyFault → Nat
  | tooLong => 413
  | _ => 400

/-- The words for a body that is refused. -/
def message : BodyFault → String
  | tooLong => "payload reached size limit"
  | unknownLength => "payload length is unknown"
  | broken fault => "payload reached EOF before completing: Some(" ++ fault.described ++ ")"

/-- The response to a body that is refused. -/
def response (fault : BodyFault) : Response where
  status := fault.status
  headers := [("content-type", "text/plain; charset=utf-8")]
  body := fault.message

end BodyFault

namespace Message

/-! ## Reading -/

/-- The most bytes of a body. -/
def maxBody : Nat := 262144

/-- The greatest number of bytes that a length can tell. -/
def maxLength : Nat := 18446744073709551615

/-- The length that the value of a header tells. -/
def lengthOf? (value : String) : Option Nat :=
  let digits := if value.toList.head? = some '+' then value.toList.drop 1 else value.toList
  (Text.natural? digits).filter (· ≤ maxLength)

/-- Refuses a length that makes no sense or is too great. -/
def checkLength (message : Message) : Except BodyFault Unit :=
  match message.header? lengthName with
  | none => .ok ()
  | some value =>
    match lengthOf? value with
    | none => .error .unknownLength
    | some length => if length ≤ maxBody then .ok () else .error .tooLong

/-- The header that tells how a body is coded. -/
def codingName : String := "content-encoding"

/-- How the body is coded. -/
def coding (message : Message) : BodyCoding :=
  ((message.plainHeader? codingName).map BodyCoding.ofName).getD .plain

/-- The body without its coding. What is wrong at the end of coded bytes is told
after the limit. -/
def decodedBody (message : Message) : Except BodyFault (List UInt8) := do
  message.checkLength
  let decoded ← (message.coding.decode ⟨message.body.toArray⟩).mapError .broken
  if decoded.bytes.size > maxBody then .error .tooLong
  else
    match decoded.ending with
    | some fault => .error (.broken fault)
    | none => .ok decoded.bytes.toList

end Message

end TableGateway.Http
