import TableGateway.Text.Quoted

-- Why coded bytes are refused.

namespace TableGateway.Coding

/-- Why a frame is refused. -/
inductive FrameFault where
  | unknownStart
  | reservedBits
  | largeWindow
  | corrupted
  | wrongSum
  | fewLiterals
  | missingTable
  | foreignDictionary
  | noRoom
  | wrongSize
deriving Repr, DecidableEq

/-- The words for a frame that is refused. -/
def FrameFault.message : FrameFault → String
  | unknownStart => "Unknown frame descriptor"
  | reservedBits => "Unsupported frame parameter"
  | largeWindow => "Frame requires too much memory for decoding"
  | corrupted => "Data corruption detected"
  | wrongSum => "Restored data doesn't match checksum"
  | fewLiterals => "Header of Literals' block doesn't respect format specification"
  | missingTable => "Dictionary is corrupted"
  | foreignDictionary => "Dictionary mismatch"
  | noRoom => "Destination buffer is too small"
  | wrongSize => "Src size is incorrect"

/-- Why coded bytes are refused. -/
inductive Fault where
  | gzipHeader
  | gzipField
  | gzipSum
  | deflateData
  | surplus
  | brotliData
  | frame (fault : FrameFault)
deriving Repr, DecidableEq

namespace Fault

/-- What is wrong, with a name for its kind. -/
def custom (kind words : String) : String :=
  "Custom \x7b kind: " ++ kind ++ ", error: " ++ Text.quoted words ++ " \x7d"

/-- A fault as messages show it. -/
def described : Fault → String
  | gzipHeader => custom "InvalidInput" "invalid gzip header"
  | gzipField => custom "InvalidInput" "gzip header field too long"
  | gzipSum => custom "InvalidInput" "corrupt gzip stream does not have a matching checksum"
  | deflateData => custom "InvalidInput" "corrupt deflate stream"
  | surplus => "Error \x7b kind: WriteZero, message: \"failed to write whole buffer\" \x7d"
  | brotliData => custom "InvalidData" "Invalid Data"
  | frame fault => custom "Other" fault.message

end Fault

/-- What coded bytes decode to, and what is found to be wrong at their end only. -/
structure Decoded where
  bytes : ByteArray
  ending : Option Fault := none

end TableGateway.Coding
