import TableGateway.Digest.Roots

-- The hash functions SHA-256, SHA-384 and SHA-512. They differ in the width
-- of their words, their number of rounds and a few distances of rotation.

namespace TableGateway.Digest

/-! ## Variants -/

/-- Two rotations and a third distance. -/
structure Mixing where
  first : Nat
  second : Nat
  third : Nat
deriving Repr

/-- What tells the hash functions apart. -/
structure Sha2 where
  width : Nat
  rounds : Nat
  bigA : Mixing
  bigE : Mixing
  smallOld : Mixing
  smallNew : Mixing
  startPrimes : List Nat
  length : Nat
deriving Repr

namespace Sha2

/-- Words of thirty-two bits and sixty-four rounds. -/
def sha256 : Sha2 where
  width := 32
  rounds := 64
  bigA := ⟨2, 13, 22⟩
  bigE := ⟨6, 11, 25⟩
  smallOld := ⟨7, 18, 3⟩
  smallNew := ⟨17, 19, 10⟩
  startPrimes := primes.take 8
  length := 32

/-- Words of sixty-four bits and eighty rounds. -/
def sha512 : Sha2 where
  width := 64
  rounds := 80
  bigA := ⟨28, 34, 39⟩
  bigE := ⟨14, 18, 41⟩
  smallOld := ⟨1, 8, 7⟩
  smallNew := ⟨19, 61, 6⟩
  startPrimes := primes.take 8
  length := 64

/-- The start comes from the ninth to sixteenth primes, and the end is cut. -/
def sha384 : Sha2 :=
  { sha512 with startPrimes := (primes.drop 8).take 8, length := 48 }

/-- A word of a hash function. -/
abbrev Word (v : Sha2) := BitVec v.width

/-- The number of bytes of a word. -/
def wordBytes (v : Sha2) : Nat := v.width / 8

/-- The number of bytes of a block: sixteen words. -/
def blockBytes (v : Sha2) : Nat := 16 * v.wordBytes

/-- The words at the start: the square roots of eight primes. -/
def start (v : Sha2) : List v.Word :=
  v.startPrimes.map fun p => BitVec.ofNat v.width (rootFraction 2 v.width p)

/-- The words of the rounds: the cube roots of the first primes. -/
def roundWords (v : Sha2) : List v.Word :=
  (primes.take v.rounds).map fun p => BitVec.ofNat v.width (rootFraction 3 v.width p)

/-! ## Blocks -/

/-- A whole number as so many bytes, greatest first. -/
def bigEndian (count n : Nat) : List UInt8 :=
  (List.range count).reverse.map fun i => UInt8.ofNat (n / Nat.pow 256 i % 256)

/-- The whole number of bytes, greatest first. -/
def ofBigEndian (bytes : List UInt8) : Nat :=
  bytes.foldl (fun n b => n * 256 + b.toNat) 0

/-- The message with one bit, zeros up to the end of a block, and its length in
bits in the last two words. -/
def padded (v : Sha2) (message : List UInt8) : List UInt8 :=
  let used := message.length + 1 + 2 * v.wordBytes
  let zeros := (v.blockBytes - used % v.blockBytes) % v.blockBytes
  message ++ 0x80 :: List.replicate zeros 0 ++ bigEndian (2 * v.wordBytes) (8 * message.length)

/-- Parts of a list of one length. -/
def chunks {α : Type} (size : Nat) : Nat → List α → List (List α)
  | 0, _ => []
  | count + 1, list => list.take size :: chunks size count (list.drop size)

/-- The sixteen words of a block. -/
def blockWords (v : Sha2) (block : List UInt8) : List v.Word :=
  (chunks v.wordBytes 16 block).map fun bytes => BitVec.ofNat v.width (ofBigEndian bytes)

/-! ## Rounds -/

/-- Three rotations of a word, one over another. -/
def rotated (v : Sha2) (m : Mixing) (x : v.Word) : v.Word :=
  x.rotateRight m.first ^^^ x.rotateRight m.second ^^^ x.rotateRight m.third

/-- Two rotations of a word and a shift, one over another. -/
def shifted (v : Sha2) (m : Mixing) (x : v.Word) : v.Word :=
  x.rotateRight m.first ^^^ x.rotateRight m.second ^^^ (x >>> m.third)

/-- Adds words to a schedule, newest first. -/
def extend (v : Sha2) : Nat → List v.Word → List v.Word
  | 0, words => words
  | count + 1, words =>
    let next := v.shifted v.smallNew (words.getD 1 0) + words.getD 6 0 +
      v.shifted v.smallOld (words.getD 14 0) + words.getD 15 0
    v.extend count (next :: words)

/-- A word for each round, from the words of a block. -/
def schedule (v : Sha2) (block : List UInt8) : List v.Word :=
  (v.extend (v.rounds - 16) (v.blockWords block).reverse).reverse

/-- One round. -/
def round (v : Sha2) (state : List v.Word) (k w : v.Word) : List v.Word :=
  match state with
  | [a, b, c, d, e, f, g, h] =>
    let choice := (e &&& f) ^^^ (~~~e &&& g)
    let majority := (a &&& b) ^^^ (a &&& c) ^^^ (b &&& c)
    let t := h + v.rotated v.bigE e + choice + k + w
    [t + v.rotated v.bigA a + majority, a, b, c, d + t, e, f, g]
  | other => other

/-- All rounds of a block, added to the words before it. -/
def compress (v : Sha2) (constants : List v.Word) (state : List v.Word) (block : List UInt8) :
    List v.Word :=
  let mixed := (constants.zip (v.schedule block)).foldl (fun s kw => v.round s kw.1 kw.2) state
  List.zipWith (· + ·) state mixed

/-- The hash of a message. -/
def hash (v : Sha2) (message : List UInt8) : List UInt8 :=
  let text := v.padded message
  let blocks := chunks v.blockBytes (text.length / v.blockBytes) text
  let final := blocks.foldl (v.compress v.roundWords) v.start
  (final.flatMap fun word => bigEndian v.wordBytes word.toNat).take v.length

end Sha2

end TableGateway.Digest
