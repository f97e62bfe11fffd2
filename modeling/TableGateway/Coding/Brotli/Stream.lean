import TableGateway.Coding.Brotli.Command
import TableGateway.Coding.Brotli.Words
import TableGateway.Coding.Fault

-- Streams: the size of the window, and then parts up to the last one. A part holds
-- commands, or plain bytes, or bytes that are passed over.

namespace TableGateway.Coding.Brotli

/-! ## Reading with output -/

/-- Reading that stops keeps the output so far. -/
abbrev Reading (α : Type) := Except (Stop × ByteArray) α

/-- What was read, or the reason to stop with the output so far. -/
def keeping {α : Type} (out : ByteArray) (read : Except Stop α) : Reading α :=
  read.mapError fun stop => (stop, out)

/-! ## Commands of a part -/

/-- What all commands of a part have in common. -/
structure Part where
  window : Nat
  form : DistanceForm
  modes : Array Nat
  literalMap : ContextMap
  distanceMap : ContextMap
  literalCodes : Array SymbolCode
  commandCodes : Array SymbolCode
  distanceCodes : Array SymbolCode

/-- What commands work on: the bits, the output, the last distances, how many bytes of
the part are left, and how the types of all three kinds of symbols go on. -/
structure Work where
  bits : Bits
  out : ByteArray
  last : LastDistances
  left : Nat
  literals : Blocks
  commands : Blocks
  distances : Blocks

namespace Part

/-- The code of a literal after what is put out so far. -/
def literalCode (part : Part) (type : Nat) (out : ByteArray) : SymbolCode :=
  let mode := part.modes.getD type 0
  let context := literalContext mode (Output.back out 1) (Output.back out 2)
  part.literalCodes.getD (part.literalMap.find literalContexts type context) default

/-- Takes so many literals. -/
def takeLiterals (part : Part) : Nat → Work → Reading Work
  | 0, work => .ok work
  | count + 1, work => do
    let { bits, out, last, left, literals, commands, distances } := work
    let (literals, bits) ← keeping out (literals.next bits)
    let (symbol, bits) ← keeping out ((part.literalCode literals.current out).read bits)
    let out := out.push (UInt8.ofNat symbol)
    takeLiterals part count { bits, out, last, left, literals, commands, distances }

/-- How far back a command means, and whether that is a new distance. A distance that
makes no sense is none. -/
def readDistance (part : Part) (command : Command) (work : Work) :
    Reading ((Option Nat × Bool) × Work) := do
  if command.isNear then .ok ((some work.last.first, false), work)
  else
    let (distances, bits) ← keeping work.out (work.distances.next work.bits)
    let index := part.distanceMap.find distanceContexts distances.current
      (distanceContext command.copy)
    let (symbol, bits) ← keeping work.out
      ((part.distanceCodes.getD index default).read bits)
    if symbol < 16 then
      .ok ((work.last.find? symbol, symbol ≠ 0), { work with bits, distances })
    else
      let (distance, bits) ← keeping work.out (part.form.far symbol bits)
      .ok ((some distance, true), { work with bits, distances })

/-- Puts bytes behind the output, of which the part has to have as many left. -/
def put (bytes : List UInt8) (work : Work) : Reading Work :=
  if work.left < bytes.length then .error (.broken, work.out)
  else .ok { work with
    left := work.left - bytes.length
    out := bytes.foldl ByteArray.push work.out }

/-- Repeats bytes, or takes a word where the distance reaches beyond the output. A word
leaves the last distances as they are. -/
def copy (part : Part) (length distance : Nat) (isNew : Bool) (work : Work) : Reading Work :=
  let reach := min work.out.size part.window
  if reach < distance then
    match word? length (distance - reach - 1) with
    | some word => put word work
    | none => .error (.broken, work.out)
  else if work.left < length then .error (.broken, work.out)
  else
    let last := if isNew then work.last.push distance else work.last
    let left := work.left - length
    .ok { work with last, left, out := Output.repeatBytes distance length work.out }

/-- Carries out a command. The literals may be the last bytes of the part. -/
def takeCommand (part : Part) (work : Work) : Reading Work := do
  let (commands, bits) ← keeping work.out (work.commands.next work.bits)
  let code := part.commandCodes.getD commands.current default
  let (command, bits) ← keeping work.out (Command.read code bits)
  if work.left < command.insert then .error (.broken, work.out)
  else
    let left := work.left - command.insert
    let work ← part.takeLiterals command.insert { work with bits, commands, left }
    if work.left = 0 ∧ command.insert ≠ 0 then .ok work
    else
      let ((distance, isNew), work) ← part.readDistance command work
      match distance with
      | none => .error (.broken, work.out)
      | some distance => part.copy command.copy distance isNew work

/-- Carries out commands until nothing of the part is left. A command takes bits or puts
out bytes, so their numbers are fuel enough. -/
def takeCommands (part : Part) : Nat → Work → Reading Work
  | 0, work => .error (.broken, work.out)
  | fuel + 1, work => do
    if work.left = 0 then .ok work
    else
      let work ← part.takeCommand work
      takeCommands part fuel work

end Part

/-! ## Heads of parts -/

/-- So many modes of literals. -/
def readModes : Nat → Bits → Except Stop (List Nat × Bits)
  | 0, bits => .ok ([], bits)
  | count + 1, bits => do
    let (mode, bits) ← bits.take 2
    let (modes, bits) ← readModes count bits
    .ok (mode :: modes, bits)

/-- What the commands of a part have in common, and what they work on. -/
def readPart (window length : Nat) (last : LastDistances) (bits : Bits) :
    Except Stop (Part × (ByteArray → Work)) := do
  let (literals, bits) ← Blocks.read bits
  let (commands, bits) ← Blocks.read bits
  let (distances, bits) ← Blocks.read bits
  let (form, bits) ← DistanceForm.read bits
  let (modes, bits) ← readModes literals.types bits
  let (literalMap, bits) ← ContextMap.read (literals.types * literalContexts) bits
  let (distanceMap, bits) ← ContextMap.read (distances.types * distanceContexts) bits
  let (literalCodes, bits) ← SymbolCode.readCodes 256 literalMap.codes bits
  let (commandCodes, bits) ← SymbolCode.readCodes commandSymbols commands.types bits
  let (distanceCodes, bits) ← SymbolCode.readCodes form.symbols distanceMap.codes bits
  let part : Part := {
    window, form, literalMap, distanceMap
    modes := modes.toArray
    literalCodes := literalCodes.toArray
    commandCodes := commandCodes.toArray
    distanceCodes := distanceCodes.toArray }
  .ok (part, fun out => { bits, out, last, left := length, literals, commands, distances })

/-- The kind of a part. -/
inductive PartKind where
  | coded
  | plain
  | passedOver
deriving Repr, DecidableEq

/-- The head of a part: whether it is the last one, its kind, and its length. -/
structure PartHead where
  isLast : Bool
  kind : PartKind
  length : Nat
deriving Repr, DecidableEq

namespace PartHead

/-- A length in so many digits of some bits each, the lowest one first. From a number of
digits on, the last one may not be zero. -/
def readLength (width digits least : Nat) (bits : Bits) : Except Stop (Nat × Bits) := do
  let (n, bits) ← bits.take (width * digits)
  if least ≤ digits ∧ n < Nat.pow 2 (width * (digits - 1)) then .error .broken
  else .ok (n + 1, bits)

/-- The head of a part with bytes that are passed over. -/
def readPassedOver (isLast : Bool) (bits : Bits) : Except Stop (PartHead × Bits) := do
  let (reserved, bits) ← bits.read
  let (digits, bits) ← bits.take 2
  if reserved = 1 then .error .broken
  else if digits = 0 then .ok ({ isLast, kind := .passedOver, length := 0 }, bits)
  else
    let (length, bits) ← readLength 8 digits 2 bits
    .ok ({ isLast, kind := .passedOver, length }, bits)

/-- The head of a part. The last part may be empty, and it cannot be plain. -/
def read (bits : Bits) : Except Stop (PartHead × Bits) := do
  let (last, bits) ← bits.read
  let isLast := last == 1
  let (isEmpty, bits) ← if isLast then bits.read else .ok (0, bits)
  if isEmpty = 1 then .ok ({ isLast, kind := .coded, length := 0 }, bits)
  else
    let (form, bits) ← bits.take 2
    if form = 3 then readPassedOver isLast bits
    else
      let (length, bits) ← readLength 4 (form + 4) 5 bits
      let (isPlain, bits) ← if isLast then .ok (0, bits) else bits.read
      .ok ({ isLast, kind := if isPlain = 1 then .plain else .coded, length }, bits)

end PartHead

/-! ## Streams -/

/-- The place after the bits that fill a byte. They are zeros. -/
def filled (bits : Bits) : Except Stop Bits :=
  if Bits.numberAt bits.data bits.next (bits.nextByte * 8 - bits.next) = 0 then .ok bits.aligned
  else .error .broken

/-- What reading has come to: the bits, the output and the last distances. -/
structure Progress where
  bits : Bits
  out : ByteArray
  last : LastDistances := {}

/-- Plain bytes of a part, as far as they are there. -/
def Progress.takePlain (progress : Progress) (length : Nat) : Reading Progress :=
  let { bits, out, last } := progress
  let start := bits.nextByte
  let count := min length (bits.data.size - start)
  let out := Output.copyInput bits.data start count out
  if count < length then .error (.ended, out)
  else .ok { bits := .ofByte bits.data (start + length), out, last }

/-- Passes over bytes of a part. -/
def Progress.passOver (progress : Progress) (length : Nat) : Reading Progress :=
  let next := progress.bits.nextByte + length
  if progress.bits.data.size < next then .error (.ended, progress.out)
  else .ok { progress with bits := .ofByte progress.bits.data next }

/-- A part after its head. -/
def Progress.takePart (progress : Progress) (window : Nat) (head : PartHead) :
    Reading Progress := do
  match head.kind with
  | .plain =>
    let bits ← keeping progress.out (filled progress.bits)
    { progress with bits }.takePlain head.length
  | .passedOver =>
    let bits ← keeping progress.out (filled progress.bits)
    { progress with bits }.passOver head.length
  | .coded =>
    if head.length = 0 then .ok progress
    else
      let (part, start) ← keeping progress.out
        (readPart window head.length progress.last progress.bits)
      let fuel := head.length + progress.bits.left + 1
      let work ← part.takeCommands fuel (start progress.out)
      .ok { bits := work.bits, out := work.out, last := work.last }

/-- Parts up to the last one. Every head takes a bit at least, so the number of bits is
fuel enough. -/
def takeParts (window : Nat) : Nat → Progress → Reading Progress
  | 0, progress => .error (.broken, progress.out)
  | fuel + 1, progress => do
    let (head, bits) ← keeping progress.out (PartHead.read progress.bits)
    let progress ← { progress with bits }.takePart window head
    if head.isLast then
      let bits ← keeping progress.out (filled progress.bits)
      .ok { progress with bits }
    else takeParts window fuel progress

/-- The number of bits for the size of the window. -/
def readWindow (bits : Bits) : Except Stop (Nat × Bits) := do
  let (isLarge, bits) ← bits.read
  if isLarge = 0 then .ok (16, bits)
  else
    let (n, bits) ← bits.take 3
    if n ≠ 0 then .ok (17 + n, bits)
    else
      let (n, bits) ← bits.take 3
      if n = 1 then .error .broken
      else if n ≠ 0 then .ok (8 + n, bits)
      else .ok (17, bits)

/-- Reads a whole stream with a window of so many bytes. -/
def readStream (window : Nat) (bits : Bits) : Reading Progress :=
  takeParts (window - 16) (bits.left + 1) { bits, out := .empty }

/-- The number of bytes that are given out at once. -/
def portion : Nat := 8096

/-- How many bytes of the output are given out when the stream ends early: all windows
that are full, and of the rest what completes a portion. -/
def givenOut (window size : Nat) : Nat :=
  let full := size / window * window
  min size (full + (portion - full % portion))

/-- Decodes bytes. Bytes that end early count as far as they go. -/
def decode (data : ByteArray) : Except Fault Decoded :=
  match readWindow (.ofByte data 0) with
  | .error .ended => .ok { bytes := .empty }
  | .error .broken => .error .brotliData
  | .ok (log, bits) =>
    match readStream (Nat.pow 2 log) bits with
    | .error (.ended, out) => .ok { bytes := out.extract 0 (givenOut (Nat.pow 2 log) out.size) }
    | .error (.broken, _) => .error .brotliData
    | .ok progress =>
      if progress.bits.nextByte < data.size then .error .surplus
      else .ok { bytes := progress.out }

end TableGateway.Coding.Brotli
