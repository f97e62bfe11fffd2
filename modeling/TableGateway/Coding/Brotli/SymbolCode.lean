import TableGateway.Coding.PrefixCode

-- Codes for symbols, as streams write them down. A code may have one symbol only,
-- which then takes no bits.

namespace TableGateway.Coding.Brotli

/-- A code for symbols. -/
inductive SymbolCode where
  | only (symbol : Nat)
  | words (code : PrefixCode)
deriving Repr, Inhabited

namespace SymbolCode

/-- Reads a symbol. -/
def read (code : SymbolCode) (bits : Bits) : Except Stop (Nat × Bits) :=
  match code with
  | only symbol => .ok (symbol, bits)
  | words code => code.read bits

/-- The code of symbols with the lengths of their words. -/
def ofPairs (count : Nat) (pairs : List (Nat × Nat)) : SymbolCode :=
  .words (.ofLengths ((List.range count).map fun symbol => (pairs.lookup symbol).getD 0))

/-! ## Few symbols -/

/-- So many symbols, each in so many bits, of those below a limit. -/
def readFew (limit width : Nat) : Nat → Bits → Except Stop (List Nat × Bits)
  | 0, bits => .ok ([], bits)
  | count + 1, bits => do
    let (symbol, bits) ← bits.take width
    if limit ≤ symbol then .error .broken
    else
      let (symbols, bits) ← readFew limit width count bits
      .ok (symbol :: symbols, bits)

/-- The number of bits that number so many things. -/
def widthOf (count : Nat) : Nat :=
  if count < 2 then 0 else Nat.log2 (count - 1) + 1

/-- A code with up to four symbols, which are written out. For four of them a bit tells
which lengths their words have. -/
def readShort (limit : Nat) (bits : Bits) : Except Stop (SymbolCode × Bits) := do
  let (count, bits) ← bits.take 2
  let (symbols, bits) ← readFew limit (widthOf limit) (count + 1) bits
  if symbols.eraseDups.length < symbols.length then .error .broken
  else if count = 0 then .ok (.only (symbols.headD 0), bits)
  else if count = 1 then .ok (ofPairs limit (symbols.zip [1, 1]), bits)
  else if count = 2 then .ok (ofPairs limit (symbols.zip [1, 2, 2]), bits)
  else
    let (isUneven, bits) ← bits.read
    let lengths := if isUneven = 1 then [1, 2, 3, 3] else [2, 2, 2, 2]
    .ok (ofPairs limit (symbols.zip lengths), bits)

/-! ## Many symbols -/

/-- The order in which the lengths for the code of lengths are written. -/
def lengthOrder : List Nat :=
  [1, 2, 3, 4, 0, 5, 17, 6, 16, 7, 8, 9, 10, 11, 12, 13, 14, 15]

/-- The fixed code in which those lengths are written. -/
def lengthCode : PrefixCode :=
  .ofLengths [2, 4, 3, 2, 2, 4]

/-- Lengths for symbols in order, as long as there is room for more words. The room is
counted in parts of the longest word, and `used` is what is taken of it. -/
def readWidths (used : Nat) : List Nat → Bits → Except Stop (List (Nat × Nat) × Bits)
  | [], bits => .ok ([], bits)
  | symbol :: rest, bits => do
    let (length, bits) ← lengthCode.read bits
    let used := if length = 0 then used else used + Nat.pow 2 (5 - length)
    if 32 ≤ used then .ok ([(symbol, length)], bits)
    else
      let (pairs, bits) ← readWidths used rest bits
      .ok ((symbol, length) :: pairs, bits)

/-- The code of lengths. It is complete, or it has one symbol. -/
def readLengthCode (skipped : Nat) (bits : Bits) : Except Stop (SymbolCode × Bits) := do
  let (pairs, bits) ← readWidths 0 (lengthOrder.drop skipped) bits
  let pairs := pairs.filter fun pair => pair.2 ≠ 0
  match pairs with
  | [(symbol, _)] => .ok (.only symbol, bits)
  | pairs =>
    if PrefixCode.isComplete (pairs.map Prod.snd) then .ok (ofPairs 18 pairs, bits)
    else .error .broken

/-- What is known while lengths are read: the lengths so far, last one first, the room
that they leave, the last one that is not zero, and what was repeated how often just
before. -/
structure Lengths where
  read : List Nat := []
  count : Nat := 0
  used : Nat := 0
  last : Nat := 8
  repeated : Nat := 0
  times : Nat := 0

/-- The room for words, in parts of the longest one. -/
def room : Nat := 32768

/-- The part of the room that a length takes. -/
def part (length : Nat) : Nat :=
  if length = 0 then 0 else room / Nat.pow 2 length

/-- One more length. -/
def Lengths.push (lengths : Lengths) (length : Nat) : Lengths where
  read := length :: lengths.read
  count := lengths.count + 1
  used := lengths.used + part length
  last := if length = 0 then lengths.last else length
  repeated := lengths.repeated
  times := 0

/-- Repeats a length. Where the same length was repeated just before, the number goes on
from that one. -/
def Lengths.again (lengths : Lengths) (length width more : Nat) : Lengths :=
  let before := if lengths.repeated = length then lengths.times else 0
  let times := (if before = 0 then 0 else (before - 2) * Nat.pow 2 width) + more + 3
  let added := times - before
  { lengths with
    read := List.replicate added length ++ lengths.read
    count := lengths.count + added
    used := lengths.used + added * part length
    repeated := length
    times }

/-- Reads lengths until they fill the room or there are as many as symbols. -/
def readLengths (code : SymbolCode) (limit : Nat) : Nat → Lengths → Bits →
    Except Stop (Lengths × Bits)
  | 0, _, _ => .error .broken
  | fuel + 1, lengths, bits =>
    if limit ≤ lengths.count ∨ lengths.used = room then .ok (lengths, bits)
    else do
      let (symbol, bits) ← code.read bits
      if symbol < 16 then readLengths code limit fuel (lengths.push symbol) bits
      else
        let width := symbol - 14
        let (more, bits) ← bits.take width
        let length := if symbol = 16 then lengths.last else 0
        readLengths code limit fuel (lengths.again length width more) bits

/-- A code whose lengths are written in a code of their own. It has to be complete. -/
def readLong (limit skipped : Nat) (bits : Bits) : Except Stop (SymbolCode × Bits) := do
  let (code, bits) ← readLengthCode skipped bits
  let (lengths, bits) ← readLengths code limit (limit + 1) {} bits
  if lengths.count ≤ limit ∧ lengths.used = room then
    .ok (.words (.ofLengths lengths.read.reverse), bits)
  else .error .broken

/-- Reads a code for symbols below a limit. -/
def readCode (limit : Nat) (bits : Bits) : Except Stop (SymbolCode × Bits) := do
  let (form, bits) ← bits.take 2
  if form = 1 then readShort limit bits else readLong limit form bits

/-- Reads so many codes. -/
def readCodes (limit : Nat) : Nat → Bits → Except Stop (List SymbolCode × Bits)
  | 0, bits => .ok ([], bits)
  | count + 1, bits => do
    let (code, bits) ← readCode limit bits
    let (codes, bits) ← readCodes limit count bits
    .ok (code :: codes, bits)

end SymbolCode

end TableGateway.Coding.Brotli
