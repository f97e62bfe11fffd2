import Mathlib.Data.Nat.ModEq
import Mathlib.Tactic.Ring
import TableGateway.Auth.Authenticator
import TableGateway.Proofs.Fallible

-- The laws of signatures. A signature that passes is the one that the shared secret gives, or its
-- power with the public key is the padded hash of what is signed.

namespace TableGateway

open Fallible

/-! ## Signatures with an RSA key -/

namespace Digest.RsaKey

/-- Squaring bit by bit gives the power. -/
theorem powerMod_eq {modulus bits result base exponent : Nat} (hresult : result < modulus)
    (h : exponent < 2 ^ bits) :
    powerMod modulus bits result base exponent = result * base ^ exponent % modulus := by
  induction bits generalizing result base exponent with
  | zero =>
    obtain rfl : exponent = 0 := by simpa using h
    simp [powerMod, Nat.mod_eq_of_lt hresult]
  | succ bits ih =>
    have hpos : 0 < modulus := Nat.zero_lt_of_lt hresult
    have hhalf : exponent / 2 < 2 ^ bits := by omega
    have hsquare : (base * base % modulus) ^ (exponent / 2) ≡ (base ^ 2) ^ (exponent / 2)
        [MOD modulus] := by
      rw [pow_two]
      exact (Nat.mod_modEq _ _).pow _
    unfold powerMod
    simp only
    split_ifs with hodd
    · rw [ih (Nat.mod_lt _ hpos) hhalf]
      calc result * base % modulus * (base * base % modulus) ^ (exponent / 2)
          ≡ result * base * (base ^ 2) ^ (exponent / 2) [MOD modulus] :=
            (Nat.mod_modEq _ _).mul hsquare
        _ = result * base ^ (2 * (exponent / 2) + 1) := by
          rw [pow_succ base (2 * (exponent / 2)), pow_mul]
          ring
        _ = result * base ^ exponent := by rw [show 2 * (exponent / 2) + 1 = exponent by omega]
    · rw [ih hresult hhalf]
      calc result * (base * base % modulus) ^ (exponent / 2)
          ≡ result * (base ^ 2) ^ (exponent / 2) [MOD modulus] := hsquare.mul_left _
        _ = result * base ^ exponent := by
          rw [← pow_mul, show 2 * (exponent / 2) = exponent by omega]

theorem lt_two_pow_bitLength (n : Nat) : n < 2 ^ bitLength n := by
  unfold bitLength
  split_ifs with h
  · simp [h]
  · exact Nat.lt_log2_self

/-- A key opens a signature of a message: the signature is as long as the modulus, and its power
within the modulus is the hash of the message with its padding. -/
structure Opens (key : RsaKey) (v : Sha2) (message signature : List UInt8) : Prop where
  strong : key.isStrong = true
  length : signature.length = key.size
  power : Sha2.bigEndian key.size (Sha2.ofBigEndian signature ^ key.exponent % key.modulus) =
    paddedHash v key.size message

theorem opens_of_verifies {key : RsaKey} {v : Sha2} {message signature : List UInt8}
    (h : key.verifies v message signature = true) : key.Opens v message signature := by
  simp only [verifies, Bool.and_eq_true, beq_iff_eq, decide_eq_true_eq] at h
  obtain ⟨⟨⟨⟨strong, length⟩, low⟩, high⟩, power⟩ := h
  refine ⟨strong, length, ?_⟩
  rw [← power, powerMod_eq (by omega) (lt_two_pow_bitLength _), Nat.one_mul]

end Digest.RsaKey

/-! ## Algorithms of a kind of key -/

/-- The algorithms that go with a kind of key, with their hash functions. -/
def KeyKind.hashes : KeyKind → List (Algorithm × Digest.Sha2)
  | .rsaPublicKey => [(.rs256, .sha256), (.rs384, .sha384), (.rs512, .sha512)]
  | .sharedSecret => [(.hs256, .sha256), (.hs384, .sha384), (.hs512, .sha512)]

/-- The algorithms that go with a kind of key. -/
def KeyKind.algorithms (kind : KeyKind) : List Algorithm :=
  kind.hashes.map Prod.fst

namespace Token

theorem mem_hashes_of_secretHash {algorithm : Algorithm} {v : Digest.Sha2}
    (h : algorithm.secretHash? = some v) : (algorithm, v) ∈ KeyKind.sharedSecret.hashes := by
  cases algorithm <;> cases h <;> simp [KeyKind.hashes]

theorem mem_hashes_of_rsaHash {algorithm : Algorithm} {v : Digest.Sha2}
    (h : algorithm.rsaHash? = some v) : (algorithm, v) ∈ KeyKind.rsaPublicKey.hashes := by
  cases algorithm <;> cases h <;> simp [KeyKind.hashes]

/-! ## Keys and signatures -/

theorem Key.ofTrees_eq_ok {trees : List KeyTree.Tree} {key : Key} (h : ofTrees trees = .ok key) :
    ∃ der, key = .rsa der := by
  unfold ofTrees at h
  split at h
  · cases h
    exact ⟨_, rfl⟩
  · cases h
  · cases h

/-- A key file in blocks holds an RSA key, or none. -/
theorem Key.ofPem_eq_ok {content : List UInt8} {key : Key} (h : ofPem content = .ok key) :
    ∃ der, key = .rsa der := by
  unfold ofPem at h
  split at h
  · cases h
  · split at h
    · cases h
    · split_ifs at h
      · cases h
        exact ⟨_, rfl⟩
      · exact ofTrees_eq_ok h

/-- A signature is that of a text, by an algorithm with the key in a content: the one that the
shared secret gives, or one that the public key verifies. -/
inductive Signed (content : List UInt8) (signed signature : String) :
    KeyKind → Algorithm → Prop where
  | secret {algorithm : Algorithm} {v : Digest.Sha2}
      (goes : (algorithm, v) ∈ KeyKind.sharedSecret.hashes)
      (same : Text.bytes signature =
        Base64.encode Base64.forUrls (Digest.hmac v content (Text.bytes signed))) :
      Signed content signed signature .sharedSecret algorithm
  | rsa {algorithm : Algorithm} {v : Digest.Sha2} {der bytes : List UInt8} {key : Digest.RsaKey}
      (goes : (algorithm, v) ∈ KeyKind.rsaPublicKey.hashes)
      (inFile : Key.ofPem content = .ok (.rsa der)) (isKey : Digest.RsaKey.ofDer? der = some key)
      (decodes : partBytes signature = .ok bytes) (opens : key.Opens v (Text.bytes signed) bytes) :
      Signed content signed signature .rsaPublicKey algorithm

theorem Signed.mem_algorithms {content : List UInt8} {signed signature : String} {kind : KeyKind}
    {algorithm : Algorithm} (h : Signed content signed signature kind algorithm) :
    algorithm ∈ kind.algorithms := by
  cases h with
  | secret goes _ | rsa goes _ _ _ _ => exact List.mem_map.mpr ⟨_, goes, rfl⟩

theorem signed_of_check {kind : KeyKind} {content : List UInt8} {key : Key}
    {algorithm : Algorithm} {v : Digest.Sha2} {parts : Parts}
    (hkey : Authenticator.keyOf kind content = .ok key) (hhash : key.hash? algorithm = some v)
    (h : checkSignature key v parts = .ok ()) :
    Signed content parts.signed parts.signature kind algorithm := by
  obtain ⟨verdict, hverdict, h⟩ := bind_eq_ok.mp h
  split_ifs at h with hgood
  subst hgood
  cases kind with
  | sharedSecret =>
    cases hkey
    refine .secret (mem_hashes_of_secretHash hhash) ?_
    exact eq_of_beq (Except.ok.inj hverdict)
  | rsaPublicKey =>
    obtain ⟨der, rfl⟩ := Key.ofPem_eq_ok hkey
    obtain ⟨bytes, hbytes, hverdict⟩ := bind_eq_ok.mp hverdict
    split at hverdict
    · rename_i publicKey hpublicKey
      exact .rsa (mem_hashes_of_rsaHash hhash) hkey hpublicKey hbytes
        (Digest.RsaKey.opens_of_verifies (Except.ok.inj hverdict))
    · cases hverdict

end Token

end TableGateway
