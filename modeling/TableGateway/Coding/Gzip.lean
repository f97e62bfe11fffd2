import TableGateway.Coding.Checksum
import TableGateway.Coding.Deflate
import TableGateway.Coding.Fault

-- Deflated bytes with a header in front, and with a sum and a length behind
-- them.

namespace TableGateway.Coding.Gzip

/-! ## Headers -/

/-- What comes of reading a header: the place after it, or why there is none. -/
inductive Header where
  | read (next : Nat)
  | ended
  | refused (fault : Fault)
deriving Repr, DecidableEq

/-- Goes on after a part of a header. -/
def Header.andThen (header : Header) (next : Nat → Header) : Header :=
  match header with
  | .read place => next place
  | other => other

/-- The first bytes of a header, before its fields. -/
def fixedLength : Nat := 10

/-- The first bytes are those that all headers have, and no flag is set that means
nothing. -/
def isStart (data : ByteArray) : Bool :=
  Bits.bytesAt data 0 3 == 0x088B1F && Bits.bytesAt data 3 1 < 32

/-- A flag is set. -/
def hasFlag (data : ByteArray) (bit : Nat) : Bool :=
  Bits.bytesAt data 3 1 / Nat.pow 2 bit % 2 == 1

/-- So many bytes. -/
def skip (data : ByteArray) (count place : Nat) : Header :=
  if place + count ≤ data.size then .read (place + count) else .ended

/-- A field with its length in front. -/
def skipExtra (data : ByteArray) (place : Nat) : Header :=
  (skip data 2 place).andThen fun next => skip data (Bits.bytesAt data place 2) next

/-- The greatest length of a text. -/
def maxText : Nat := 65535

/-- A text that ends with a zero, of which `room` bytes may still come. -/
def skipText (data : ByteArray) : Nat → Nat → Header
  | room, place =>
    if place < data.size then
      if Bits.byteAt data place = 0 then .read (place + 1)
      else
        match room with
        | 0 => .refused .gzipField
        | room + 1 => skipText data room (place + 1)
    else .ended

/-- A sum of the header itself, of which the lower half counts. -/
def skipSum (data : ByteArray) (place : Nat) : Header :=
  (skip data 2 place).andThen fun next =>
    if Bits.bytesAt data place 2 = (crc32 (data.extract 0 place)).toNat % 65536 then .read next
    else .refused .gzipSum

/-- A part that is there if a flag is set. -/
def skipIf (data : ByteArray) (bit : Nat) (part : Nat → Header) (place : Nat) : Header :=
  if hasFlag data bit then part place else .read place

/-- The header of all bytes. -/
def header (data : ByteArray) : Header :=
  if data.size < fixedLength then .ended
  else if !isStart data then .refused .gzipHeader
  else
    (((skipIf data 2 (skipExtra data) fixedLength).andThen
      (skipIf data 3 (skipText data maxText))).andThen
      (skipIf data 4 (skipText data maxText))).andThen
      (skipIf data 1 (skipSum data))

/-! ## Decoding -/

/-- The bytes behind the deflated ones tell their sum and their length. -/
def isTrailer (data : ByteArray) (start : Nat) (out : ByteArray) : Bool :=
  Bits.bytesAt data start 4 == (crc32 out).toNat &&
    Bits.bytesAt data (start + 4) 4 == out.size % Nat.pow 2 32

/-- Decodes bytes. What is behind the deflated bytes is looked at last. -/
def decode (data : ByteArray) : Except Fault Decoded :=
  match header data with
  | .refused fault => .error fault
  | .ended => .ok { bytes := .empty, ending := some .gzipSum }
  | .read start =>
    let progress := Deflate.read data start
    match progress.rest with
    | .error .broken => .error .deflateData
    | .error .ended => .ok { bytes := progress.out, ending := some .gzipSum }
    | .ok bits =>
      let trailer := bits.nextByte
      if data.size > trailer + 8 then .error .surplus
      else if data.size = trailer + 8 ∧ isTrailer data trailer progress.out then
        .ok { bytes := progress.out }
      else .ok { bytes := progress.out, ending := some .gzipSum }

end TableGateway.Coding.Gzip
