import TableGateway.Proofs.Admission
import TableGateway.Proofs.Cutting
import TableGateway.Proofs.Expiry
import TableGateway.Proofs.KeyCache
import TableGateway.Proofs.Signatures

-- The laws of tokens. Whoever is let in brought a token that was made with the key in the key
-- file, for an algorithm of its kind, and that has not expired.

namespace TableGateway

open Fallible

namespace Token

/-! ## Expiry -/

/-- What stands for the moment of expiry is not past by more than sixty seconds, as far as a
moment has sixty-four bits: it is no number, or one below zero, or its nearest second is not. -/
def Timely (now : Nat) (expiry : Option Json.Value) : Prop :=
  ∀ n q, expiry = some (.number n) → n.value? = some q → 0 ≤ q → now < 2 ^ 64 →
    (now : ℤ) ≤ round q + 60

theorem timely_of_check {now : Nat} {value : Option Json.Value}
    (h : checkExpiry now (value.bind momentOf) = .ok ()) : Timely now value := by
  rintro n q rfl hvalue low hnow
  rcases lt_or_ge q (2 ^ 64) with high | high
  · obtain ⟨moment, hmoment, hround⟩ := moment?_eq hvalue low high
    rw [Option.bind_some, momentOf, hmoment] at h
    simp only [checkExpiry] at h
    split_ifs at h with hpast
    unfold leeway at hpast
    omega
  · have hround : (2 ^ 64 : ℤ) ≤ round q := by
      rw [round_eq, Int.le_floor]
      push_cast
      linarith
    omega

/-- Claims count at a moment: they are an object, or an array of five items of which the first
stands for the member of expiry, and they have not expired. -/
inductive ClaimsCount (now : Nat) : Json.Value → Prop where
  | object {members : Json.Members} (timely : Timely now (members.get? "exp")) :
      ClaimsCount now (.object members)
  | array {items : List Json.Value} (five : items.length = 5) (timely : Timely now items.head?) :
      ClaimsCount now (.array items)

theorem claimsCount_of_check {claims : String} {bytes : List UInt8} {now : Nat}
    {moment : Option Nat} (hbytes : partBytes claims = .ok bytes) (hmoment : expiry claims = .ok moment)
    (h : checkExpiry now moment = .ok ()) :
    ∃ value, Json.read bytes = .ok value ∧ ClaimsCount now value := by
  rcases expiry_eq_ok hbytes hmoment with ⟨members, hread, rfl⟩ | ⟨items, hread, five, rfl⟩
  · exact ⟨_, hread, .object (timely_of_check h)⟩
  · exact ⟨_, hread, .array five (timely_of_check h)⟩

/-! ## Tokens that count -/

/-- The parts of a token, of which the first may hold points. -/
structure HasParts (token header claims signature : String) : Prop where
  joined : token = header ++ "." ++ claims ++ "." ++ signature
  claims : '.' ∉ claims.toList
  signature : '.' ∉ signature.toList

theorem cutAtLast_point {s before after : String} :
    Text.cutAtLast '.' s = some (before, after) ↔
      s = before ++ "." ++ after ∧ '.' ∉ after.toList := by
  rw [Text.cutAtLast_eq_some, ← String.toList_inj]
  simp

theorem split?_eq_some {token : String} {parts : Parts} :
    split? token = some parts ↔ HasParts token parts.header parts.claims parts.signature ∧
      parts.signed = parts.header ++ "." ++ parts.claims := by
  unfold split?
  simp only [Option.bind_eq_bind, Option.bind_eq_some_iff, Prod.exists, cutAtLast_point]
  constructor
  · rintro ⟨signed, signature, ⟨rfl, hsignature⟩, header, claims, ⟨rfl, hclaims⟩, heq⟩
    cases heq
    exact ⟨⟨rfl, hclaims, hsignature⟩, rfl⟩
  · rintro ⟨⟨joined, hclaims, hsignature⟩, hsigned⟩
    refine ⟨parts.signed, parts.signature, ⟨?_, hsignature⟩, parts.header, parts.claims,
      ⟨hsigned, hclaims⟩, rfl⟩
    rw [joined, hsigned]

/-- A token has one header. -/
theorem HasParts.header_eq {token header header' claims claims' signature signature' : String}
    (h : HasParts token header claims signature) (h' : HasParts token header' claims' signature') :
    header = header' := by
  have hsplit : split? token = some ⟨header, claims, signature, header ++ "." ++ claims⟩ :=
    split?_eq_some.mpr ⟨h, rfl⟩
  have hsplit' : split? token = some ⟨header', claims', signature', header' ++ "." ++ claims'⟩ :=
    split?_eq_some.mpr ⟨h', rfl⟩
  cases hsplit.symm.trans hsplit'
  rfl

/-- A token counts for a key: its header declares an algorithm of this kind of key, its signature
is that of the text before the last point, by this algorithm with the key in a content, and its
claims count. -/
structure Counts (kind : KeyKind) (content : List UInt8) (now : Nat)
    (header claims signature : String) (algorithm : Algorithm) (claimed : Json.Value) : Prop where
  declares : ∃ bytes, partBytes header = .ok bytes ∧ Declares bytes algorithm
  ofKind : algorithm ∈ kind.algorithms
  signed : Signed content (header ++ "." ++ claims) signature kind algorithm
  reads : ∃ bytes, partBytes claims = .ok bytes ∧ Json.read bytes = .ok claimed
  counts : ClaimsCount now claimed

theorem counts_of_check {kind : KeyKind} {content : List UInt8} {now : Nat} {key : Key}
    {token : String} (hkey : Authenticator.keyOf kind content = .ok key)
    (h : check key now token = .ok ()) :
    ∃ header claims signature algorithm claimed, HasParts token header claims signature ∧
      Counts kind content now header claims signature algorithm claimed := by
  unfold check at h
  split at h
  · cases h
  · rename_i parts hparts
    obtain ⟨hasParts, hsigned⟩ := split?_eq_some.mp hparts
    obtain ⟨v, hhash, h⟩ := bind_eq_ok.mp h
    obtain ⟨_, hsignature, h⟩ := bind_eq_ok.mp h
    obtain ⟨moment, hmoment, h⟩ := bind_eq_ok.mp h
    obtain ⟨declared, hdeclared, hhash⟩ := bind_eq_ok.mp hhash
    split at hhash
    · rename_i v' hv
      cases hhash
      obtain ⟨algorithm, rfl, hv⟩ := Option.bind_eq_some_iff.mp hv
      obtain ⟨bytes, hbytes, _⟩ := bind_eq_ok.mp hdeclared
      obtain ⟨claimBytes, hclaimBytes, _⟩ := bind_eq_ok.mp hmoment
      obtain ⟨claimed, hread, counts⟩ := claimsCount_of_check hclaimBytes hmoment h
      have signed := signed_of_check hkey hv hsignature
      rw [hsigned] at signed
      have declares := declares_of_algorithm hbytes hdeclared
      exact ⟨_, _, _, algorithm, claimed, hasParts, ⟨bytes, hbytes, declares⟩,
        signed.mem_algorithms, signed, ⟨claimBytes, hclaimBytes, hread⟩, counts⟩
    · cases hhash

end Token

/-! ## Headers with a token -/

namespace Authenticator

/-- A header carries a token: a scheme that is the word for it, in any case of letters, then a
blank, the first one, and the token. -/
def Carries (header : Option String) (token : String) : Prop :=
  ∃ scheme, header = some (scheme ++ " " ++ token) ∧ ' ' ∉ scheme.toList ∧
    Text.sameLetters scheme "bearer" = true

/-- The content of the key file: that of the file, or that of the last reading if the file has not
changed its time since. -/
def HoldsKey (found : Except String KeyFile) (cache : KeyFile.Cache) (content : List UInt8) : Prop :=
  ∃ file, found = .ok file ∧ (content = file.content ∨
    ∃ kept, cache = some kept ∧ kept.changed = file.changed ∧ content = kept.content)

theorem carries_of_tokenOf {header : Option String} {token : String}
    (h : tokenOf header = .ok token) : Carries header token := by
  unfold tokenOf at h
  split at h
  · cases h
  · rename_i text htext
    obtain ⟨hheader, _⟩ := Option.filter_eq_some_iff.mp htext
    split at h
    · cases h
    · rename_i token' hbearer
      cases h
      unfold bearer? at hbearer
      split at hbearer
      · rename_i scheme rest hcut
        split_ifs at hbearer with hscheme
        cases hbearer
        obtain ⟨htoList, hfree⟩ := Text.cutAt_eq_some.mp hcut
        refine ⟨scheme, ?_, hfree, hscheme⟩
        rw [hheader, Option.some_inj, ← String.toList_inj, htoList]
        simp
      · cases hbearer

theorem Carries.unique {header : Option String} {token token' : String} (h : Carries header token)
    (h' : Carries header token') : token = token' := by
  obtain ⟨scheme, rfl, hfree, _⟩ := h
  obtain ⟨scheme', heq, hfree', _⟩ := h'
  have hlist := congrArg String.toList (Option.some.inj heq)
  simp only [String.toList_append, List.append_assoc] at hlist
  exact String.toList_inj.mp (Text.eq_of_marked ' ' hfree hfree' hlist).2

theorem holdsKey_of_read {found : Except String KeyFile} {cache : KeyFile.Cache}
    {content : List UInt8} (h : (KeyFile.read found cache).1 = .ok content) :
    HoldsKey found cache content := by
  cases found with
  | error text => cases h
  | ok file =>
    cases h
    refine ⟨file, rfl, ?_⟩
    rcases KeyFile.current_eq_or cache file with heq | ⟨hcache, hchanged⟩
    · exact .inl (by rw [heq])
    · exact .inr ⟨_, hcache, hchanged, rfl⟩

/-! ## Tokens with a secret -/

/-- A header with the usual scheme carries what follows it. -/
theorem tokenOf_bearer (token : String) :
    tokenOf (some ("Bearer" ++ " " ++ token)) = .ok token := by
  have hcut : Text.cutAt ' ' ("Bearer" ++ " " ++ token) = some ("Bearer", token) :=
    Text.cutAt_eq_some.mpr ⟨by simp, by decide⟩
  have hne : "Bearer" ++ " " ++ token ≠ "" := by
    intro h
    have := congrArg (fun s => s.toList) h
    simp at this
  have hfilter : (some ("Bearer" ++ " " ++ token)).filter (fun text => decide (text ≠ "")) =
      some ("Bearer" ++ " " ++ token) :=
    Option.filter_eq_some_iff.mpr ⟨rfl, by simp⟩
  have hbearer : bearer? ("Bearer" ++ " " ++ token) = some token := by
    unfold bearer?
    rw [hcut]
    exact if_pos (by decide)
  unfold tokenOf
  rw [hfilter]
  simp only [hbearer]

/-- A token passes whose parts pass one by one with the secret that is read. -/
theorem passes_with_secret {path head claims signature : String} {found : Except String KeyFile}
    {cache : KeyFile.Cache} {secret : List UInt8} {now : Nat} {algorithm : Algorithm}
    {v : Digest.Sha2} {moment : Option Nat} (content : (KeyFile.read found cache).1 = .ok secret)
    (points : '.' ∉ claims.toList ∧ '.' ∉ signature.toList)
    (named : Token.algorithm head = .ok (some algorithm)) (hash : algorithm.secretHash? = some v)
    (signed : Text.bytes signature = Token.secretSignature v secret (head ++ "." ++ claims))
    (expires : Token.expiry claims = .ok moment) (timely : Token.checkExpiry now moment = .ok ()) :
    ((enabled .sharedSecret path).authenticate found now cache
      (some ("Bearer" ++ " " ++ (head ++ "." ++ claims ++ "." ++ signature)))).1 = .ok () := by
  have hsplit : Token.split? (head ++ "." ++ claims ++ "." ++ signature) =
      some ⟨head, claims, signature, head ++ "." ++ claims⟩ :=
    Token.split?_eq_some.mpr ⟨⟨rfl, points.1, points.2⟩, rfl⟩
  have hcheck : Token.check (.secret secret) now (head ++ "." ++ claims ++ "." ++ signature) =
      .ok () := by
    simp only [Token.check, hsplit, Token.headerHash, named, Token.checkSignature,
      Token.Key.verifies, signed, expires, bind, Except.bind, Option.bind, Token.Key.hash?, hash,
      pure, Except.pure, beq_self_eq_true, if_true, timely]
  simp only [authenticate, tokenOf_bearer, content, verifyWith, verify, keyOf]
  change (Token.check _ _ _).mapError refused = _
  rw [hcheck]
  rfl

/-! ## The law -/

/-- Whoever is let in carries a token that counts for the key in the key file. -/
theorem counts_of_authenticate {kind : KeyKind} {path : String} {found : Except String KeyFile}
    {now : Nat} {cache : KeyFile.Cache} {header : Option String}
    (h : ((enabled kind path).authenticate found now cache header).1 = .ok ()) :
    ∃ token content, Carries header token ∧ HoldsKey found cache content ∧
      ∃ head claims signature algorithm claimed,
        Token.HasParts token head claims signature ∧
        Token.Counts kind content now head claims signature algorithm claimed := by
  simp only [authenticate] at h
  split at h
  · cases h
  · rename_i token htoken
    cases hcontent : (KeyFile.read found cache).1 with
    | error fault =>
      simp only [hcontent, verifyWith] at h
      cases h
    | ok content =>
      simp only [hcontent, verifyWith, verify] at h
      obtain ⟨key, hkey, hcheck⟩ := bind_eq_ok.mp (mapError_eq_ok.mp h)
      exact ⟨token, content, carries_of_tokenOf htoken, holdsKey_of_read hcontent,
        Token.counts_of_check hkey hcheck⟩

/-- Only tokens of the key pass. A header that is let in carries a token for the key in the key
file that counts. A token whose header declares another algorithm than those of this kind of key
is refused, however it is signed. Whatever goes wrong, the sender is not known. -/
theorem only_tokens_of_the_key_pass (kind : KeyKind) (path : String)
    (found : Except String KeyFile) (now : Nat) (cache : KeyFile.Cache) (header : Option String) :
    let verdict := ((enabled kind path).authenticate found now cache header).1
    (verdict = .ok () → ∃ token content, Carries header token ∧ HoldsKey found cache content ∧
      ∃ head claims signature algorithm claimed,
        Token.HasParts token head claims signature ∧
        Token.Counts kind content now head claims signature algorithm claimed) ∧
    (∀ token head claims signature bytes algorithm, Carries header token →
      Token.HasParts token head claims signature → Token.partBytes head = .ok bytes →
      Token.Declares bytes algorithm → algorithm ∉ kind.algorithms →
      ∃ reason, verdict = .error (.unauthorized reason)) ∧
    ∀ fault, verdict = .error fault → ∃ reason, fault = .unauthorized reason := by
  intro verdict
  refine ⟨counts_of_authenticate, ?_, fun fault h => authenticate_error h⟩
  intro token head claims signature bytes algorithm carries hasParts hbytes declares foreign
  cases hverdict : verdict with
  | error fault =>
    obtain ⟨reason, rfl⟩ := authenticate_error hverdict
    exact ⟨reason, rfl⟩
  | ok u =>
    obtain ⟨token', content, carries', _, head', claims', signature', algorithm', claimed,
      hasParts', counts⟩ := counts_of_authenticate hverdict
    obtain rfl := carries.unique carries'
    obtain ⟨bytes', hbytes', declares'⟩ := counts.declares
    obtain rfl := hasParts.header_eq hasParts'
    cases hbytes.symm.trans hbytes'
    obtain rfl := declares.unique declares'
    exact absurd counts.ofKind foreign

/-- A token that expires this second. -/
theorem a_token_of_this_second_passes :
    let found : Except String KeyFile := .ok ⟨Text.bytes "secret", 5⟩
    let token := "eyJhbGciOiJIUzI1NiJ9" ++ "." ++ "eyJleHAiOjEwMDB9" ++ "." ++
      "ROkUxbfucB7B40Bk3G7B_TTnEtP-yKiyfxzXp0X1RBs"
    let header := some ("Bearer" ++ " " ++ token)
    ((enabled .sharedSecret "key").authenticate found 1000 none header).1 = .ok () ∧
      ∃ token content, Carries header token ∧ HoldsKey found none content ∧
        ∃ head claims signature algorithm claimed,
          Token.HasParts token head claims signature ∧
          Token.Counts .sharedSecret content 1000 head claims signature algorithm claimed := by
  intro found token header
  have named : Token.algorithm "eyJhbGciOiJIUzI1NiJ9" = .ok (some .hs256) := by decide +kernel
  have signed : Text.bytes "ROkUxbfucB7B40Bk3G7B_TTnEtP-yKiyfxzXp0X1RBs" =
      Token.secretSignature .sha256 (Text.bytes "secret")
        ("eyJhbGciOiJIUzI1NiJ9" ++ "." ++ "eyJleHAiOjEwMDB9") := by
    decide +kernel
  have expires : Token.expiry "eyJleHAiOjEwMDB9" = .ok (some 1000) := by decide +kernel
  have passes : ((enabled .sharedSecret "key").authenticate found 1000 none header).1 = .ok () :=
    passes_with_secret rfl (by decide) named rfl signed expires rfl
  obtain ⟨counts, _⟩ := only_tokens_of_the_key_pass .sharedSecret "key" found 1000 none header
  exact ⟨passes, counts passes⟩

/-- The items of an array, as messages call them. -/
def itemsFound : Json.Value → List Json.Found
  | .array items => items.map .ofValue
  | _ => []

theorem eq_array_of_found {value : Json.Value} {found : Json.Found} {others : List Json.Found}
    (h : itemsFound value = found :: others) :
    ∃ item rest, value = .array (item :: rest) ∧ .ofValue item = found ∧
      rest.map .ofValue = others := by
  cases value with
  | array items =>
    obtain ⟨item, rest, rfl, hitem, hrest⟩ := List.map_eq_cons_iff.mp h
    exact ⟨item, rest, rfl, hitem, hrest⟩
  | null | bool _ | number _ | string _ | object _ => cases h

theorem eq_object_of_found {value : Json.Value} (h : Json.Found.ofValue value = .map) :
    ∃ members, value = .object members := by
  cases value with
  | object members => exact ⟨members, rfl⟩
  | null | bool _ | number _ | string _ | array _ => cases h

theorem eq_number_of_found {value : Json.Value} {n : Json.Number}
    (h : Json.Found.ofValue value = .number n) : value = .number n := by
  cases value with
  | number m =>
    cases h
    rfl
  | null | bool _ | string _ | array _ | object _ => cases h

/-- Not each token that passes has an object for its header, a string for its algorithm, an object
for its claims, a moment of expiry that is past by sixty seconds at most, and a signature with what
the key file holds now: arrays of fields pass too, an object may name the algorithm, a fraction
goes to the nearest second, and a file that keeps its time of change is not read again. -/
theorem arrays_pass_with_a_kept_secret :
    let head := "WyIiLHsiSFMyNTYiOm51bGx9LCIiLCIiLG51bGwsIiIsIiIsW10sIiIsIiJd"
    let claims := "WzkzOS41LDAsMCwwLDBd"
    let signature := "OLvjtOqRbQVilCCpcQibs0pZfpmg-DLSoqmUcCFeRis"
    let found : Except String KeyFile := .ok ⟨Text.bytes "new", 5⟩
    let cache : KeyFile.Cache := some ⟨Text.bytes "old", 5⟩
    ((enabled .sharedSecret "key").authenticate found 1000 cache
        (some ("Bearer" ++ " " ++ (head ++ "." ++ claims ++ "." ++ signature)))).1 = .ok () ∧
      (∃ bytes first members rest, Token.partBytes head = .ok bytes ∧
        Json.read bytes = .ok (.array (first :: .object members :: rest))) ∧
      (∃ bytes n rest, Token.partBytes claims = .ok bytes ∧
        Json.read bytes = .ok (.array (.number n :: rest)) ∧ n.value? = some (1000 - 60 - 1 / 2)) ∧
      Text.bytes signature ≠
        Token.secretSignature .sha256 (Text.bytes "new") (head ++ "." ++ claims) := by
  intro head claims signature found cache
  have named : Token.algorithm head = .ok (some .hs256) := by decide +kernel
  have signed : Text.bytes signature =
      Token.secretSignature .sha256 (Text.bytes "old") (head ++ "." ++ claims) := by
    decide +kernel
  have expires : Token.expiry claims = .ok (some 940) := by decide +kernel
  have headFound : ((Token.partBytes head).toOption.bind fun bytes =>
      (Json.read bytes).toOption.map itemsFound) =
        some [.string "", .map, .string "", .string "", .null, .string "", .string "", .sequence,
          .string "", .string ""] := by
    decide +kernel
  have claimsFound : ((Token.partBytes claims).toOption.bind fun bytes =>
      (Json.read bytes).toOption.map itemsFound) =
        some (.number (.float 0x408D5C0000000000) :: List.replicate 4 (.number (.whole 0))) := by
    decide +kernel
  refine ⟨passes_with_secret rfl (by decide) named rfl signed expires rfl, ?_, ?_,
    by decide +kernel⟩
  · obtain ⟨bytes, hbytes, hread⟩ := Option.bind_eq_some_iff.mp headFound
    obtain ⟨value, hvalue, hitems⟩ := toOption_map_eq_some.mp hread
    obtain ⟨first, _, rfl, _, hitems⟩ := eq_array_of_found hitems
    obtain ⟨second, rest, rfl, hsecond, _⟩ := List.map_eq_cons_iff.mp hitems
    obtain ⟨members, rfl⟩ := eq_object_of_found hsecond
    exact ⟨bytes, first, members, rest, toOption_eq_some.mp hbytes, hvalue⟩
  · obtain ⟨bytes, hbytes, hread⟩ := Option.bind_eq_some_iff.mp claimsFound
    obtain ⟨value, hvalue, hitems⟩ := toOption_map_eq_some.mp hread
    obtain ⟨item, rest, rfl, hitem, _⟩ := eq_array_of_found hitems
    obtain rfl := eq_number_of_found hitem
    refine ⟨bytes, _, rest, toOption_eq_some.mp hbytes, hvalue, ?_⟩
    have hparts : Decimal.binary? 0x408D5C0000000000 = some ⟨false, 8263929394364416, -43⟩ := by
      decide +kernel
    simp only [Json.Number.value?, hparts, Option.map_some, Decimal.Binary.value]
    norm_num

end Authenticator

end TableGateway
