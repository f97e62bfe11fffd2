import TableGateway.Text.Calendar
import TableGateway.Text.Numeral
import TableGateway.Text.Utf8

-- The elements of a key in binary form, as a tree. Elements are read more
-- freely than in signatures: lengths and tags may be written longer than they
-- need to be. But every element has to make sense, also those that no key needs.

namespace TableGateway.KeyTree

/-! ## Trees -/

/-- An element. Only the kinds that tell about keys are told apart. -/
inductive Tree where
  | sequence (items : List Tree)
  | identifier (arcs : List Nat)
  | bits (content : List UInt8)
  | bytes (content : List UInt8)
  | other
deriving Repr

/-! ## Tags and lengths -/

/-- A number in groups of seven bits, of which all but the last have the eighth
bit, and what follows it. -/
def number? : Nat → List UInt8 → Option (Nat × List UInt8)
  | _, [] => none
  | n, b :: rest =>
    let n := n * 128 + b.toNat % 128
    if b < 0x80 then some (n, rest) else number? n rest

/-- The tag of an element: its number, and whether the number means the same
everywhere. -/
structure Tag where
  isUniversal : Bool
  number : Nat
deriving Repr, DecidableEq

/-- A tag, and what follows it. Numbers from thirty-one on follow the first byte. -/
def tag? : List UInt8 → Option (Tag × List UInt8)
  | [] => none
  | b :: rest =>
    let isUniversal := b < 0x40
    if b.toNat % 32 = 31 then (number? 0 rest).map fun read => (⟨isUniversal, read.1⟩, read.2)
    else some (⟨isUniversal, b.toNat % 32⟩, rest)

/-- A length, and what follows it. A length of its own may stand in front, which
is eight at most. -/
def length? : List UInt8 → Option (Nat × List UInt8)
  | [] => none
  | b :: rest =>
    if b < 0x80 then some (b.toNat, rest)
    else
      let count := b.toNat - 0x80
      if count > 8 ∨ rest.length < count then none
      else some ((rest.take count).foldl (fun n d => n * 256 + d.toNat) 0, rest.drop count)

/-- The tag and the content of a first element, and the rest. -/
def element? (bytes : List UInt8) : Option (Tag × List UInt8 × List UInt8) := do
  let (tag, rest) ← tag? bytes
  let (n, rest) ← length? rest
  if n ≤ rest.length then some (tag, rest.take n, rest.drop n) else none

/-! ## Values -/

/-- The arcs of an identifier after the first two. Every arc takes a byte, so the
number of bytes is fuel enough. -/
def arcs? : Nat → List UInt8 → Option (List Nat)
  | _, [] => some []
  | 0, _ => none
  | fuel + 1, bytes => do
    let (arc, rest) ← number? 0 bytes
    let arcs ← arcs? fuel rest
    some (arc :: arcs)

/-- The arcs of an identifier. The first byte stands for two of them. -/
def identifier? : List UInt8 → Option (List Nat)
  | [] => none
  | b :: rest =>
    let first := min (b.toNat / 40) 2
    (arcs? rest.length rest).map fun arcs => first :: (b.toNat - first * 40) :: arcs

/-- The bits of a string of bits. The first byte tells how many of the last ones
do not count, which cannot be more than there are. -/
def bits? : List UInt8 → Option (List UInt8)
  | [] => some []
  | spare :: content => if spare.toNat ≤ content.length * 8 then some content else none

/-- A character of simple texts. -/
def isPrintable (b : UInt8) : Bool :=
  let c := Char.ofNat b.toNat
  c.isAlphanum || " '()+,-./:=?".toList.contains c

/-- The digits of a byte sequence. -/
def digits? (bytes : List UInt8) : Option (List Char) :=
  let cs := bytes.map fun b => Char.ofNat b.toNat
  if cs.all Text.isDigit then some cs else none

/-- Fourteen digits name a second of the calendar. -/
def isSecond (digits : List Char) : Bool :=
  let number (start count : Nat) := Text.digitsValue ((digits.drop start).take count)
  digits.length == 14 && Text.isDate (number 0 4) (number 4 2) (number 6 2) &&
    Text.isTimeOfDay (number 8 2) (number 10 2) (number 12 2)

/-- A time with a year of two digits, of which fifty is the first one of the last
century. -/
def isShortTime (content : List UInt8) : Bool :=
  match digits? (content.take 12), content.drop 12 with
  | some digits, [0x5A] =>
    let century := if Text.digitsValue (digits.take 2) < 50 then ['2', '0'] else ['1', '9']
    isSecond (century ++ digits)
  | _, _ => false

/-- A time with a year of four digits, and perhaps a fraction of a second. -/
def isLongTime (content : List UInt8) : Bool :=
  match digits? (content.take 14), (content.drop 14).reverse with
  | some digits, 0x5A :: fraction =>
    let fraction := match fraction.reverse with
      | 0x2E :: fraction => fraction
      | fraction => fraction
    isSecond digits && (digits? fraction).isSome
  | _, _ => false

/-- The element of a tag that has no further elements inside. -/
def leaf? (number : Nat) (content : List UInt8) : Option Tree :=
  let other (holds : Bool) : Option Tree := if holds then some .other else none
  match number with
  | 1 => other (content.length == 1)
  | 3 => (bits? content).map .bits
  | 4 => some (.bytes content)
  | 6 => (identifier? content).map .identifier
  | 12 | 20 | 28 | 30 => other (Utf8.decode? content).isSome
  | 19 => other (content.all isPrintable)
  | 22 => other (content.all (· < 0x80))
  | 23 => other (isShortTime content)
  | 24 => other (isLongTime content)
  | _ => some .other

/-! ## Reading -/

/-- The number of the tag of a sequence. -/
def sequenceNumber : Nat := 16

/-- The number of the tag of a set. -/
def setNumber : Nat := 17

/-- The elements of all bytes, of which there is one at least. Every element takes
two bytes, so the number of bytes is fuel enough. -/
def trees? : Nat → List UInt8 → Option (List Tree)
  | 0, _ => none
  | fuel + 1, bytes => do
    let (tag, content, rest) ← element? bytes
    let tree ←
      if !tag.isUniversal then some .other
      else if tag.number = sequenceNumber then (trees? fuel content).map .sequence
      else if tag.number = setNumber then (trees? fuel content).map fun _ => .other
      else leaf? tag.number content
    let others ← if rest.isEmpty then some [] else trees? fuel rest
    some (tree :: others)

/-- The elements of all bytes. -/
def ofBytes? (bytes : List UInt8) : Option (List Tree) :=
  trees? (bytes.length + 1) bytes

/-! ## Looking for elements -/

mutual

/-- The first element that a function picks, in the order of the bytes. -/
def Tree.find? {α : Type} (pick : Tree → Option α) : Tree → Option α
  | .sequence items => find? pick items
  | tree => pick tree

/-- The first element that a function picks, in the order of the bytes. Elements
inside of sequences count too. -/
def find? {α : Type} (pick : Tree → Option α) : List Tree → Option α
  | [] => none
  | tree :: rest =>
    match tree.find? pick with
    | some a => some a
    | none => find? pick rest

end

/-! ## Identifiers of keys -/

/-- Keys for RSA. -/
def rsaKeys : List Nat := [1, 2, 840, 113549, 1, 1, 1]

/-- Keys for elliptic curves. -/
def curveKeys : List Nat := [1, 2, 840, 10045, 2, 1]

/-- Keys for the curve Ed25519. -/
def edwardsKeys : List Nat := [1, 3, 101, 112]

end TableGateway.KeyTree
