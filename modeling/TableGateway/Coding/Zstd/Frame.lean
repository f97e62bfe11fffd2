import TableGateway.Coding.Hash64
import TableGateway.Coding.Zstd.Block

-- Frames: a head, blocks up to the last one, and perhaps a sum. Bytes that are not
-- frames may be passed over, if they tell their number.

namespace TableGateway.Coding.Zstd

/-! ## Heads -/

/-- The head of a frame: the window, the number of bytes that it decodes to if that is
told, whether a sum follows the blocks, and the place after the head. -/
structure FrameHead where
  window : Nat
  size : Option Nat
  hasSum : Bool
  next : Nat
deriving Repr, DecidableEq

/-- What stands at a place. -/
inductive Opening where
  | frame (head : FrameHead)
  | passedOver (next : Nat)
  | ended
deriving Repr, DecidableEq

namespace FrameHead

/-- The number that frames begin with. -/
def start : Nat := 0xFD2FB528

/-- The sixteenth part of the numbers that bytes to be passed over begin with. -/
def passedOverStart : Nat := 0x184D2A5

/-- The fewest bytes of a head. -/
def minLength : Nat := 5

/-- The greatest size of a block. -/
def maxBlock : Nat := 131072

/-- The size of a window, whose greatest exponent is so much. -/
def maxWindowLog : Nat := 31

/-- As many bytes as there are could begin a frame, or bytes to be passed over. -/
def mayOpen (data : ByteArray) (place : Nat) : Bool :=
  let count := min 4 (data.size - place)
  let found := Bits.bytesAt data place count
  let low := Nat.pow 256 count
  found == start % low || (count == 0 || found / 16 == passedOverStart * 16 % low / 16)

/-- The number of bytes of the size that a frame tells, by two bits of the head. -/
def sizeLength (form : Nat) (isSingle : Bool) : Nat :=
  if form = 0 then (if isSingle then 1 else 0) else Nat.pow 2 form

/-- The size of a window by its byte. -/
def windowOf (n : Nat) : Nat :=
  let window := Nat.pow 2 (n / 8 + 10)
  window + window / 8 * (n % 8)

/-- The head that begins with the start of frames. -/
def read (data : ByteArray) (place : Nat) : Except FrameFault Opening :=
  let flags := (Bits.byteAt data (place + 4)).toNat
  let isSingle := flags / 32 % 2 == 1
  let windowPlace := place + minLength
  let idPlace := windowPlace + if isSingle then 0 else 1
  let idLength := [0, 1, 2, 4].getD (flags % 4) 0
  let sizePlace := idPlace + idLength
  let form := flags / 64
  let sizeLength := sizeLength form isSingle
  let next := sizePlace + sizeLength
  let windowByte := (Bits.byteAt data windowPlace).toNat
  if data.size < next then .ok .ended
  else if flags / 8 % 2 = 1 then .error .reservedBits
  else if !isSingle ∧ maxWindowLog < windowByte / 8 + 10 then .error .largeWindow
  else
    let told := Bits.bytesAt data sizePlace sizeLength + if form = 1 then 256 else 0
    if Bits.bytesAt data idPlace idLength ≠ 0 then .error .foreignDictionary
    else .ok (.frame {
      window := if isSingle then told else windowOf windowByte
      size := if sizeLength = 0 then none else some told
      hasSum := flags / 4 % 2 == 1
      next })

/-- What stands at a place. -/
def opening (data : ByteArray) (place : Nat) : Except FrameFault Opening :=
  if data.size < place + minLength then
    if mayOpen data place then .ok .ended else .error .unknownStart
  else
    let found := Bits.bytesAt data place 4
    if found = start then read data place
    else if found / 16 = passedOverStart then
      if data.size < place + 8 then .ok .ended
      else .ok (.passedOver (place + 8 + Bits.bytesAt data (place + 4) 4))
    else .error .unknownStart

/-- The greatest size of a block of the frame. -/
def blockLimit (head : FrameHead) : Nat :=
  min head.window maxBlock

/-- The output is of the size that the head tells. -/
def agrees (head : FrameHead) (out : ByteArray) : Bool :=
  head.size.all (· == out.size)

/-- The sum at a place is that of the output. -/
def isSum (data : ByteArray) (place : Nat) (out : ByteArray) : Bool :=
  Bits.bytesAt data place 4 == (Hash64.sum out).toNat % Nat.pow 2 32

/-- The place after the blocks from a place on, if all of them are there. Every head
takes some bytes, so their number is fuel enough. -/
def blocksEnd? (data : ByteArray) : Nat → Nat → Option Nat
  | 0, _ => none
  | fuel + 1, place => do
    let head ← BlockHead.at? data place
    let next := place + BlockHead.length + head.stored
    if data.size < next then none
    else if head.isLast then some next
    else blocksEnd? data fuel next

/-- The place after the frame, if all of it is there. -/
def end? (head : FrameHead) (data : ByteArray) : Option Nat := do
  let next ← blocksEnd? data (data.size + 1) head.next
  let next := next + if head.hasSum then 4 else 0
  if data.size < next then none else some next

/-! ## Whole frames -/

/-- The number of bytes that are decoded at once. -/
def portion : Nat := 32768

/-- Decodes the blocks of a frame that is all there, in a portion. -/
def takeAll (head : FrameHead) (data : ByteArray) : Nat → Nat → FrameState →
    Except FrameFault (FrameState × Nat)
  | 0, _, _ => .error .corrupted
  | fuel + 1, place, state =>
    match BlockHead.at? data place with
    | none => .error .corrupted
    | some block => do
      let start := place + BlockHead.length
      let room := portion - state.out.size
      let state ← state.takeBlock data start block head.blockLimit room
      let next := start + block.stored
      if block.isLast then .ok (state, next) else takeAll head data fuel next state

/-- Decodes a frame that is all there. -/
def decodeAll (head : FrameHead) (data : ByteArray) : Except FrameFault ByteArray := do
  let (state, next) ← head.takeAll data (data.size + 1) head.next {}
  if !head.agrees state.out then .error .corrupted
  else if head.hasSum ∧ !isSum data next state.out then .error .wrongSum
  else .ok state.out

/-! ## Frames as they come -/

/-- The greatest window of a frame that is decoded as it comes. -/
def maxWindow : Nat := Nat.pow 2 27 + 1

/-- The least window that room is made for. -/
def minWindow : Nat := 1024

/-- The room for output: the window and two blocks with some bytes between them, or as
much as the frame tells if that is less. -/
def bufferSize (head : FrameHead) : Nat :=
  let window := max head.window minWindow
  let full := window + 2 * min (min window maxBlock) head.blockLimit + 64
  (head.size.map (min full)).getD full

/-- How far decoding came: the output, and the place after the frame if it is all
there. -/
structure Progress where
  out : ByteArray
  next : Option Nat

/-- The place in the room where the next block goes. It is the first one again when a
block might not fit. -/
def nextUsed (head : FrameHead) (used : Nat) : Nat :=
  let buffer := head.bufferSize
  if head.size.all (buffer < ·) ∧ buffer < used + head.blockLimit then 0 else used

/-- The end of a frame, with the sum if there is one. -/
def finish (head : FrameHead) (data : ByteArray) (place : Nat) (out : ByteArray) :
    Except FrameFault Progress :=
  if !head.hasSum then .ok { out, next := some place }
  else if data.size < place + 4 then .ok { out, next := none }
  else if isSum data place out then .ok { out, next := some (place + 4) }
  else .error .wrongSum

/-- Decodes blocks as far as they are there. Of a block that is cut off only plain bytes
count. One without bytes is nothing, and if it is the last one, the size of the output
is not looked at. -/
def takeSome (head : FrameHead) (data : ByteArray) : Nat → Nat → Nat → FrameState →
    Except FrameFault Progress
  | 0, _, _, _ => .error .corrupted
  | fuel + 1, place, used, state =>
    let start := place + BlockHead.length
    if data.size < start then .ok { out := state.out, next := none }
    else
      match BlockHead.at? data place with
      | none => .error .corrupted
      | some block => do
        let room := head.bufferSize - used
        if head.blockLimit < block.stored then .error .corrupted
        else if block.stored = 0 then
          if block.isLast then head.finish data start state.out
          else takeSome head data fuel start used state
        else if data.size < start + block.stored then
          if block.kind = .plain then
            let found := { block with size := data.size - start }
            let state ← state.takeBlock data start found head.blockLimit room
            .ok { out := state.out, next := none }
          else .ok { out := state.out, next := none }
        else
          let after ← state.takeBlock data start block head.blockLimit room
          let grown := after.out.size - state.out.size
          let next := start + block.stored
          if head.blockLimit < grown ∨ (block.isLast ∧ !head.agrees after.out) then
            .error .corrupted
          else if block.isLast then head.finish data next after.out
          else takeSome head data fuel next (head.nextUsed (used + grown)) after

/-- Decodes a frame as it comes. -/
def decodeSome (head : FrameHead) (data : ByteArray) : Except FrameFault Progress :=
  if maxWindow < max head.window minWindow then .error .largeWindow
  else head.takeSome data (data.size + 1) head.next 0 {}

/-- Decodes a frame: at once if it is all there and tells that a portion will hold it,
or else as it comes. -/
def decode (head : FrameHead) (data : ByteArray) : Except FrameFault Progress :=
  match head.end? data with
  | some next =>
    if head.size.any (· ≤ portion) then
      (head.decodeAll data).map fun out => { out, next := some next }
    else head.decodeSome data
  | none => head.decodeSome data

end FrameHead

/-! ## Frames one after another -/

/-- Decodes frames from a place on, behind some output. Every frame takes some bytes, so
their number is fuel enough. -/
def decodeFrom (data : ByteArray) : Nat → Nat → ByteArray → Except FrameFault ByteArray
  | 0, _, _ => .error .corrupted
  | fuel + 1, place, out => do
    if data.size ≤ place then .ok out
    else
      match ← FrameHead.opening data place with
      | .ended => .ok out
      | .passedOver next => decodeFrom data fuel next out
      | .frame head => do
        let progress ← head.decode data
        let out := out ++ progress.out
        match progress.next with
        | none => .ok out
        | some next => decodeFrom data fuel next out

/-- Decodes bytes. Bytes that end early count as far as they go. -/
def decode (data : ByteArray) : Except Fault Decoded :=
  match decodeFrom data (data.size + 1) 0 .empty with
  | .ok bytes => .ok { bytes }
  | .error fault => .error (.frame fault)

end TableGateway.Coding.Zstd
