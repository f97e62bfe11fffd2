-- The strict binary encoding of keys and signatures: elements of a tag, a
-- length and a content, of which some hold further elements.

namespace TableGateway.Der

/-! ## Tags -/

/-- The tag of a sequence. -/
def sequenceTag : UInt8 := 0x30

/-- The tag of a whole number. -/
def integerTag : UInt8 := 0x02

/-- The tag of a string of bytes. -/
def bytesTag : UInt8 := 0x04

/-- The tag of an object identifier. -/
def identifierTag : UInt8 := 0x06

/-- The tag of an empty value. -/
def nullTag : UInt8 := 0x05

/-! ## Reading -/

/-- A length, written with as few bytes as can be, and what follows it. Lengths
from 128 on have their own length in front, which is two at most. -/
def length? : List UInt8 → Option (Nat × List UInt8)
  | [] => none
  | b :: rest =>
    if b < 0x80 then some (b.toNat, rest)
    else
      match b, rest with
      | 0x81, high :: rest => if high ≥ 0x80 then some (high.toNat, rest) else none
      | 0x82, high :: low :: rest =>
        if high > 0 then some (high.toNat * 256 + low.toNat, rest) else none
      | _, _ => none

/-- The content of a first element with this tag, and the rest. -/
def element? (tag : UInt8) : List UInt8 → Option (List UInt8 × List UInt8)
  | [] => none
  | b :: rest => do
    let (n, rest) ← length? rest
    if b = tag ∧ n ≤ rest.length then some (rest.take n, rest.drop n) else none

/-- A positive whole number, written with as few bytes as can be, and the rest. -/
def positive? (bytes : List UInt8) : Option (Nat × List UInt8) := do
  let (content, rest) ← element? integerTag bytes
  let n := content.foldl (fun n d => n * 256 + d.toNat) 0
  match content with
  | [] => none
  | 0 :: d :: _ => if d < 0x80 then none else some (n, rest)
  | d :: _ => if d ≥ 0x80 ∨ n = 0 then none else some (n, rest)

/-! ## Writing -/

/-- The identifier of a hash function, by the number of bytes of a hash. -/
def hashFunction (length : Nat) : List UInt8 :=
  let last : UInt8 := if length = 32 then 1 else if length = 48 then 2 else 3
  [0x60, 0x86, 0x48, 0x01, 0x65, 0x03, 0x04, 0x02, last]

/-- An element with a content of fewer than 128 bytes. -/
def short (tag : UInt8) (content : List UInt8) : List UInt8 :=
  tag :: UInt8.ofNat content.length :: content

/-- The name of a hash function with a hash. -/
def digestInfo (length : Nat) (hash : List UInt8) : List UInt8 :=
  short sequenceTag
    (short sequenceTag (short identifierTag (hashFunction length) ++ short nullTag []) ++
      short bytesTag hash)

end TableGateway.Der
