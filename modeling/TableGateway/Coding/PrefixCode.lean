import TableGateway.Coding.Bits

-- Codes in which no word begins another one. The words are told by their
-- lengths alone: shorter words come first, and words of one length are in the
-- order of what they stand for.

namespace TableGateway.Coding

/-- A code: how many words each length has, and what the words stand for, in
order. -/
structure PrefixCode where
  counts : Array Nat
  symbols : Array Nat
deriving Repr

namespace PrefixCode

/-- The greatest length of a word. -/
def maxLength : Nat := 15

/-- The symbols with words of a length, in order. -/
def symbolsOf (lengths : List Nat) (length : Nat) : List Nat :=
  (lengths.zipIdx.filter fun entry => entry.1 == length).map Prod.snd

/-- The code of the lengths of its words. Length zero is for symbols without a
word. -/
def ofLengths (lengths : List Nat) : PrefixCode :=
  let groups := (List.range maxLength).map fun i => symbolsOf lengths (i + 1)
  { counts := (groups.map List.length).toArray, symbols := groups.flatten.toArray }

/-- How much of all texts the words begin, in parts of the longest word. -/
def weight (lengths : List Nat) : Nat :=
  ((lengths.filter (· ≠ 0)).map fun length => Nat.pow 2 (maxLength - length)).foldl (· + ·) 0

/-- Every text begins with a word, and with one only. -/
def isComplete (lengths : List Nat) : Bool :=
  weight lengths == Nat.pow 2 maxLength

/-- Reads a word. `word` is the number of the bits so far, `first` the one that the
words of this length begin with, and `index` the place of their symbols. -/
def readFrom (code : PrefixCode) : Nat → Nat → Nat → Nat → Bits → Except Stop (Nat × Bits)
  | 0, _, _, _, _ => .error .broken
  | lengths + 1, word, first, index, bits => do
    let (bit, bits) ← bits.read
    let word := word + bit
    let count := code.counts.getD (maxLength - lengths - 1) 0
    if word < first + count then .ok (code.symbols.getD (index + (word - first)) 0, bits)
    else readFrom code lengths (word * 2) ((first + count) * 2) (index + count) bits

/-- Reads a word, and gives what it stands for. -/
def read (code : PrefixCode) (bits : Bits) : Except Stop (Nat × Bits) :=
  readFrom code maxLength 0 0 0 bits

end PrefixCode

end TableGateway.Coding
