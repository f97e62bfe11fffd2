import TableGateway.Digest.Sha2
import TableGateway.Encoding.Der

-- RSA signatures with the padding of PKCS#1, version 1.5.

namespace TableGateway.Digest

/-- A public key. -/
structure RsaKey where
  modulus : Nat
  exponent : Nat
deriving Repr, DecidableEq

namespace RsaKey

/-! ## Keys -/

/-- The number of bits of a number. -/
def bitLength (n : Nat) : Nat :=
  if n = 0 then 0 else n.log2 + 1

/-- The number of bytes of the modulus, which is that of a signature. -/
def size (key : RsaKey) : Nat :=
  (bitLength key.modulus + 7) / 8

/-- The keys that may sign: an odd modulus of 2048 to 8192 bits, and an odd
exponent from three up to thirty-three bits. -/
def isStrong (key : RsaKey) : Bool :=
  256 ≤ key.size && bitLength key.modulus ≤ 8192 && key.modulus % 2 == 1 &&
    3 ≤ key.exponent && bitLength key.exponent ≤ 33 && key.exponent % 2 == 1

/-- The key of an encoded sequence of modulus and exponent. -/
def ofDer? (bytes : List UInt8) : Option RsaKey := do
  let (content, rest) ← Der.element? Der.sequenceTag bytes
  let (modulus, content) ← Der.positive? content
  let (exponent, content) ← Der.positive? content
  if content.isEmpty ∧ rest.isEmpty then some ⟨modulus, exponent⟩ else none

/-! ## Signatures -/

/-- A power within a modulus. The bits of the exponent are taken from the
lowest on. -/
def powerMod (modulus : Nat) : Nat → Nat → Nat → Nat → Nat
  | 0, result, _, _ => result
  | bits + 1, result, base, exponent =>
    let result := if exponent % 2 = 1 then result * base % modulus else result
    powerMod modulus bits result (base * base % modulus) (exponent / 2)

/-- What is signed: the name of the hash function and the hash, with padding in
front. -/
def paddedHash (v : Sha2) (size : Nat) (message : List UInt8) : List UInt8 :=
  let info := Der.digestInfo v.length (v.hash message)
  0x00 :: 0x01 :: List.replicate (size - 3 - info.length) 0xFF ++ 0x00 :: info

/-- The signature is that of the message. -/
def verifies (key : RsaKey) (v : Sha2) (message signature : List UInt8) : Bool :=
  let s := Sha2.ofBigEndian signature
  key.isStrong && signature.length == key.size && 0 < s && s < key.modulus &&
    Sha2.bigEndian key.size (powerMod key.modulus (bitLength key.exponent) 1 s key.exponent) ==
      paddedHash v key.size message

end RsaKey

end TableGateway.Digest
