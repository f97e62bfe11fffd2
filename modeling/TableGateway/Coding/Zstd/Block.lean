import TableGateway.Coding.Zstd.Literals
import TableGateway.Coding.Zstd.Sequences

-- Blocks of a frame: plain bytes, one byte many times, or literals and sequences.

namespace TableGateway.Coding.Zstd

/-- What the blocks of a frame have decoded to, and what later blocks may refer to. -/
structure FrameState where
  out : ByteArray := .empty
  code : Option WeightCode := none
  codes : Option SequenceCodes := none
  last : LastOffsets := {}

/-- The kind of a block. -/
inductive BlockKind where
  | plain
  | repeated
  | coded
deriving Repr, DecidableEq

/-- The head of a block. The size is that of what it decodes to, unless that is not
known. -/
structure BlockHead where
  isLast : Bool
  kind : BlockKind
  size : Nat
deriving Repr, DecidableEq

namespace BlockHead

/-- The number of bytes of a head. -/
def length : Nat := 3

/-- The head at a place. One kind of block means nothing. -/
def at? (data : ByteArray) (start : Nat) : Option BlockHead :=
  let n := Bits.bytesAt data start length
  let kind := match n / 2 % 4 with
    | 0 => some BlockKind.plain
    | 1 => some .repeated
    | 2 => some .coded
    | _ => none
  kind.map fun kind => { isLast := n % 2 == 1, kind, size := n / 8 }

/-- The number of bytes between the head and the next one. -/
def stored (head : BlockHead) : Nat :=
  match head.kind with
  | .repeated => 1
  | _ => head.size

end BlockHead

namespace FrameState

/-- Decodes literals and sequences between two places. -/
def takeCoded (state : FrameState) (data : ByteArray) (start stop maxBlock room : Nat) :
    Except FrameFault FrameState := do
  if maxBlock < stop - start then .error .wrongSize
  else
    let literals ← Literals.read data start stop ⟨maxBlock, room⟩ state.code
    let head ← SequenceHead.read data literals.next stop state.codes
    let work : Work := {
      literals := literals.bytes, out := state.out, last := state.last
      limit := state.out.size + room }
    let work ← match head.count, head.codes with
      | 0, _ => .ok work
      | count, some codes => readSequences codes count data head.next stop work
      | _, none => .ok work
    let work ← work.finish
    .ok { out := work.out, code := literals.code, codes := head.codes, last := work.last }

/-- Decodes a block after its head, for which the output has some room. -/
def takeBlock (state : FrameState) (data : ByteArray) (start : Nat) (head : BlockHead)
    (maxBlock room : Nat) : Except FrameFault FrameState :=
  match head.kind with
  | .coded => state.takeCoded data start (start + head.size) maxBlock room
  | .plain =>
    if room < head.size then .error .noRoom
    else .ok { state with out := Output.copyInput data start head.size state.out }
  | .repeated =>
    if room < head.size then .error .noRoom
    else .ok { state with out := Output.copies (Bits.byteAt data start) head.size state.out }

end FrameState

end TableGateway.Coding.Zstd
