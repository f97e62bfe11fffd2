import TableGateway.Coding.Brotli.Blocks
import TableGateway.Text.Bytes

-- What a symbol's code depends on beside its type: for literals the two bytes before,
-- and for distances the length.

namespace TableGateway.Coding.Brotli

/-! ## Literals -/

/-- The number of contexts of a literal. -/
def literalContexts : Nat := 64

/-- The part of a context that the last byte tells, for texts. -/
def lastByteClass (b : UInt8) : Nat :=
  let n := b.toNat
  let c := Char.ofNat n
  if n ≥ 192 then 2 + n % 2
  else if n ≥ 128 then n % 2
  else if "AEIOU".toList.contains c then 48
  else if c.isUpper then 52
  else if "aeiou".toList.contains c then 56
  else if c.isLower then 60
  else if c.isDigit then 44
  else if c = '\t' ∨ c = '\n' ∨ c = '\r' then 4
  else if n < 32 ∨ n = 127 then 0
  else if c = ' ' then 8
  else if c = '!' ∨ c = '"' then (if c = '"' then 16 else 12)
  else if c = '%' then 20
  else if c = '\'' then 16
  else if "([\x7b<".toList.contains c then 24
  else if ")]\x7d>".toList.contains c then 28
  else if ",:;".toList.contains c then 32
  else if c = '.' then 36
  else if c = '=' then 40
  else 12

/-- The part of a context that the byte before the last one tells, for texts. -/
def byteBeforeClass (b : UInt8) : Nat :=
  let n := b.toNat
  let c := Char.ofNat n
  if n ≥ 224 then 2
  else if n ≥ 127 ∨ n < 32 then 0
  else if c.isLower then 3
  else if c.isUpper ∨ c.isDigit then 2
  else if c = ' ' then 0
  else 1

/-- The part of a context that a byte tells as a number. -/
def sizeClass (b : UInt8) : Nat :=
  let n := b.toNat
  if n = 0 then 0
  else if n < 16 then 1
  else if n < 64 then 2
  else if n < 128 then 3
  else if n < 192 then 4
  else if n < 240 then 5
  else if n < 255 then 6
  else 7

/-- The context of a literal after two bytes, in one of four modes. -/
def literalContext (mode : Nat) (last before : UInt8) : Nat :=
  if mode = 0 then last.toNat % 64
  else if mode = 1 then last.toNat / 4
  else if mode = 2 then lastByteClass last ||| byteBeforeClass before
  else sizeClass last * 8 + sizeClass before

/-! ## Distances -/

/-- The number of contexts of a distance. -/
def distanceContexts : Nat := 4

/-- The context of a distance to so many bytes. -/
def distanceContext (length : Nat) : Nat :=
  min length 5 - 2

/-! ## Maps -/

/-- Numbers of codes for contexts, until there are as many as are due. Small symbols tell
how many times the first code comes. `read` holds the numbers so far, last one first. -/
def readMapFrom (code : SymbolCode) (maxRun due : Nat) : Nat → List Nat → Nat → Bits →
    Except Stop (List Nat × Bits)
  | 0, _, _, _ => .error .broken
  | fuel + 1, read, count, bits =>
    if count = due then .ok (read.reverse, bits)
    else if due < count then .error .broken
    else do
      let (symbol, bits) ← code.read bits
      if symbol = 0 then readMapFrom code maxRun due fuel (0 :: read) (count + 1) bits
      else if symbol ≤ maxRun then
        let (more, bits) ← bits.take symbol
        let run := Nat.pow 2 symbol + more
        if due < count + run then .error .broken
        else readMapFrom code maxRun due fuel (List.replicate run 0 ++ read) (count + run) bits
      else readMapFrom code maxRun due fuel ((symbol - maxRun) :: read) (count + 1) bits

/-- The items that numbers mean, where each number moves its item to the front. -/
def movedToFront (items : List Nat) : List Nat → List Nat
  | [] => []
  | n :: rest =>
    let item := items.getD n 0
    item :: movedToFront (item :: items.eraseIdx n) rest

/-- Which code each context has, and the number of codes. -/
structure ContextMap where
  codes : Nat
  entries : Array Nat

/-- Reads a map for so many contexts. -/
def ContextMap.read (due : Nat) (bits : Bits) : Except Stop (ContextMap × Bits) := do
  let (more, bits) ← Blocks.readSmall bits
  let codes := more + 1
  if codes = 1 then .ok ({ codes, entries := Array.replicate due 0 }, bits)
  else
    let (hasRuns, bits) ← bits.read
    let (maxRun, bits) ← if hasRuns = 1 then do
        let (n, bits) ← bits.take 4
        .ok (n + 1, bits)
      else .ok (0, bits)
    let (code, bits) ← SymbolCode.readCode (codes + maxRun) bits
    let (numbers, bits) ← readMapFrom code maxRun due (due + 1) [] 0 bits
    let (isMoved, bits) ← bits.read
    let numbers := if isMoved = 1 then movedToFront (List.range 256) numbers else numbers
    .ok ({ codes, entries := numbers.toArray }, bits)

/-- The code of a context of a type. -/
def ContextMap.find (map : ContextMap) (contexts type context : Nat) : Nat :=
  map.entries.getD (type * contexts + context) 0

end TableGateway.Coding.Brotli
