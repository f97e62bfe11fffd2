import TableGateway.Coding.StateCode

-- Codes for literals. Every symbol has a weight, and the number of bits of its word
-- is what the weight leaves of the longest word. The weight of the last symbol is
-- what the others leave.

namespace TableGateway.Coding.Zstd

/-- A code: the number of bits that settle a symbol, and for all of their values the
symbol with the length of its word. -/
structure WeightCode where
  log : Nat
  words : Array (Nat × Nat)
deriving Repr

namespace WeightCode

/-! ## Weights -/

/-- The greatest length of a word. -/
def maxLog : Nat := 12

/-- The part of all words that a weight stands for. -/
def part (weight : Nat) : Nat :=
  if weight = 0 then 0 else Nat.pow 2 (weight - 1)

/-- The code of weights, among which the last one is missing. -/
def ofWeights? (weights : List Nat) : Option WeightCode :=
  let sum := (weights.map part).foldl (· + ·) 0
  let log := Nat.log2 sum + 1
  let rest := Nat.pow 2 log - sum
  let weights := weights ++ [Nat.log2 rest + 1]
  let least := weights.count 1
  if sum = 0 ∨ maxLog < log ∨ Nat.pow 2 (Nat.log2 rest) ≠ rest ∨ least < 2 ∨ least % 2 = 1 then none
  else
    let ofWeight (weight : Nat) : List (Nat × Nat) :=
      (weights.zipIdx.filter fun entry => entry.1 == weight).flatMap fun entry =>
        List.replicate (part weight) (entry.2, log + 1 - weight)
    some { log, words := ((List.range log).flatMap fun i => ofWeight (i + 1)).toArray }

/-- So many weights, two in a byte. -/
def plainWeights (data : ByteArray) (start count : Nat) : List Nat :=
  (List.range count).map fun i =>
    let pair := (Bits.byteAt data (start + i / 2)).toNat
    if i % 2 = 0 then pair / 16 else pair % 16

/-- Weights from two states in turn, until the bits are used up. -/
def readWeights (code : StateCode) : Nat → CodeState → CodeState → BackBits → Option (List Nat)
  | 0, _, _, _ => none
  | fuel + 1, one, other, bits =>
    let (next, bits) := code.step one bits
    if bits.isOver then some [one.symbol, other.symbol]
    else (readWeights code fuel other next bits).map (one.symbol :: ·)

/-- The most weights that states may write, but for the last one. -/
def maxCoded : Nat := 254

/-- Weights in a code of their own, between two places. -/
def codedWeights (data : ByteArray) (start stop : Nat) : Option (List Nat) := do
  let (log, shares, next) ← StateCode.readShares data start stop 255 6
  let code := StateCode.ofShares log shares
  let bits ← BackBits.ofBytes? data next stop
  let (one, bits) := code.start bits
  let (other, bits) := code.start bits
  if bits.isOver then none else readWeights code maxCoded one other bits

/-- The code that bytes from a place on tell, with the place after them. -/
def read (data : ByteArray) (start stop : Nat) : Option (WeightCode × Nat) :=
  let head := (Bits.byteAt data start).toNat
  let weights :=
    if head < 128 then (codedWeights data (start + 1) (start + 1 + head), start + 1 + head)
    else (some (plainWeights data (start + 1) (head - 127)), start + 1 + (head - 126) / 2)
  if stop ≤ start ∨ stop < weights.2 then none
  else (weights.1.bind ofWeights?).map fun code => (code, weights.2)

/-! ## Words -/

/-- Puts so many symbols behind the output. -/
def readSymbols (code : WeightCode) : Nat → BackBits → ByteArray → BackBits × ByteArray
  | 0, bits, out => (bits, out)
  | count + 1, bits, out =>
    let (symbol, width) := code.words.getD (bits.peek code.log) (0, 0)
    readSymbols code count (bits.drop width) (out.push (UInt8.ofNat symbol))

/-- Puts so many symbols behind the output. The bytes between two places hold them and
nothing else. -/
def readStream (code : WeightCode) (data : ByteArray) (start stop count : Nat)
    (out : ByteArray) : Option ByteArray := do
  let bits ← BackBits.ofBytes? data start stop
  let (bits, out) := code.readSymbols count bits out
  if bits.isEnd then some out else none

/-- The least number of bytes of four streams. -/
def minStreams : Nat := 10

/-- Symbols in four streams. The lengths of the first three are written before them. -/
def readStreams (code : WeightCode) (data : ByteArray) (start stop count : Nat) :
    Option ByteArray := do
  let share := (count + 3) / 4
  let length (i : Nat) : Nat := Bits.bytesAt data (start + 2 * i) 2
  let second := start + 6 + length 0
  let third := second + length 1
  let fourth := third + length 2
  if stop < start + minStreams ∨ stop < fourth ∨ count < 3 * share then none
  else do
    let out ← code.readStream data (start + 6) second share .empty
    let out ← code.readStream data second third share out
    let out ← code.readStream data third fourth share out
    code.readStream data fourth stop (count - 3 * share) out

end WeightCode

end TableGateway.Coding.Zstd
