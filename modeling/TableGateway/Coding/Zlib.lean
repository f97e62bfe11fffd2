import TableGateway.Coding.Checksum
import TableGateway.Coding.Deflate
import TableGateway.Coding.Fault

-- Deflated bytes with two bytes in front and a sum behind them.

namespace TableGateway.Coding.Zlib

/-- The number that bytes from a place on make, highest byte first. -/
def numberAt (data : ByteArray) (start : Nat) : Nat → Nat
  | 0 => 0
  | count + 1 =>
    numberAt data start count * 256 + (Bits.byteAt data (start + count)).toNat

/-- The two bytes in front make sense: the method is the only one there is, the window
is not greater than it may be, no other bytes are presupposed, and both bytes together
have no remainder. -/
def isHead (method flags : Nat) : Bool :=
  (method * 256 + flags) % 31 == 0 && flags / 32 % 2 == 0 && method % 16 == 8 &&
    method / 16 ≤ 7

/-- Decodes bytes. Bytes that end early count as far as they go. -/
def decode (data : ByteArray) : Except Fault Decoded :=
  if data.size < 2 then .ok { bytes := .empty }
  else if !isHead (numberAt data 0 1) (numberAt data 1 1) then .error .deflateData
  else
    let progress := Deflate.read data 2
    match progress.rest with
    | .error .broken => .error .deflateData
    | .error .ended => .ok { bytes := progress.out }
    | .ok bits =>
      let start := bits.nextByte
      if data.size < start + 4 then .ok { bytes := progress.out }
      else if numberAt data start 4 ≠ adler32 progress.out then .error .deflateData
      else if data.size > start + 4 then .error .surplus
      else .ok { bytes := progress.out }

end TableGateway.Coding.Zlib
