import Mathlib.Data.List.DropRight
import TableGateway.Json.Record
import TableGateway.Proofs.Fallible

-- The laws of values that are passed over. Whatever can be read can be passed over, and the same
-- text is left.

namespace TableGateway.Json

open Fallible

variable {α : Type}

/-- What `reading` reads is passed over by `pass`, and the same text is left. -/
def Covers (pass : Reading Unit) (reading : Reading α) : Prop :=
  ∀ text a rest, reading text = .ok (a, rest) → pass text = .ok ((), rest)

theorem covers_readWord (result : α) (word : List UInt8) :
    Covers (readWord () word) (readWord result word) := by
  induction word with
  | nil =>
    rintro text a rest h
    cases h
    rfl
  | cons w word ih =>
    intro text a rest h
    cases text with
    | nil => cases h
    | cons b text =>
      unfold readWord at h ⊢
      split_ifs at h ⊢
      exact ih text a rest h

/-! ## Numbers -/

theorem afterDigits_cons {b : UInt8} (h : isDigitByte b = true) (text : List UInt8) :
    afterDigits (b :: text) = afterDigits text :=
  List.dropWhile_cons_of_pos h

theorem rest_of_finishFloat {negative : Bool} {digits : Nat} {exponent : Int} {n : Number}
    {text rest : List UInt8} (h : finishFloat negative digits exponent text = .ok (n, rest)) :
    rest = text := by
  unfold finishFloat at h
  split at h
  · cases h
    rfl
  · cases h

/-- An exponent ends after its digits. -/
theorem eq_of_readExponentDigits {negative down : Bool} {digits : Nat} {exponent : Int} {n : Number}
    {text rest : List UInt8}
    (h : readExponentDigits negative down digits exponent text = .ok (n, rest)) :
    ∃ b after, text = b :: after ∧ isDigitByte b = true ∧ rest = afterDigits after := by
  cases text with
  | nil => cases h
  | cons b text =>
    simp only [readExponentDigits] at h
    split at h
    · rename_i hdigit
      refine ⟨b, text, rfl, hdigit, ?_⟩
      simp only [afterDigits_cons hdigit] at h
      split at h
      · exact rest_of_finishFloat h
      · split_ifs at h
        cases h
        rfl
    · cases h

theorem covers_readExponent (negative : Bool) (digits : Nat) (exponent : Int) :
    Covers passExponent (readExponent negative digits exponent) := by
  intro text n rest h
  cases text with
  | nil => cases h
  | cons b text =>
    simp only [readExponent] at h
    simp only [passExponent]
    by_cases hplus : b = Text.byte '+'
    · rw [if_pos hplus] at h
      obtain ⟨d, after, rfl, hdigit, rfl⟩ := eq_of_readExponentDigits h
      simp [hplus, hdigit]
    · by_cases hminus : b = Text.byte '-'
      · rw [if_neg hplus, if_pos hminus] at h
        obtain ⟨d, after, rfl, hdigit, rfl⟩ := eq_of_readExponentDigits h
        simp [hminus, hdigit]
      · rw [if_neg hplus, if_neg hminus] at h
        obtain ⟨d, after, heq, hdigit, rfl⟩ := eq_of_readExponentDigits h
        cases heq
        simp [hplus, hminus, hdigit]

theorem covers_readScale (negative : Bool) (digits : Nat) (exponent : Int) :
    Covers passScale (readScale negative digits exponent) := by
  intro text n rest h
  cases text with
  | nil =>
    rw [rest_of_finishFloat h]
    rfl
  | cons b text =>
    simp only [readScale] at h
    simp only [passScale]
    split_ifs at h ⊢
    · exact covers_readExponent _ _ _ text n rest h
    · rw [rest_of_finishFloat h]

theorem covers_readAfterWhole (negative : Bool) (digits extra : Nat) :
    Covers passAfterWhole (readAfterWhole negative digits extra) := by
  intro text n rest h
  cases text with
  | nil =>
    simp only [readAfterWhole] at h
    split_ifs at h
    · cases h
      rfl
    · rw [rest_of_finishFloat h]
      rfl
  | cons b text =>
    simp only [readAfterWhole] at h
    simp only [passAfterWhole]
    split_ifs at h ⊢ with hpoint hmark hextra
    · cases text with
      | nil => cases h
      | cons d after =>
        simp only [readFraction] at h
        split_ifs at h with hdigit
        rw [afterDigits_cons hdigit] at h
        simp only [hdigit, if_true]
        exact covers_readScale _ _ _ _ n rest h
    · simp only [passScale, hmark, if_true]
      exact covers_readExponent _ _ _ text n rest h
    · cases h
      simp [passScale, hmark]
    · rw [rest_of_finishFloat h]
      simp [passScale, hmark]

theorem covers_readNumber (negative : Bool) : Covers passNumber (readNumber negative) := by
  intro text n rest h
  cases text with
  | nil => cases h
  | cons b text =>
    simp only [readNumber] at h
    simp only [passNumber]
    split_ifs at h ⊢ with hzero hdigit
    · cases text with
      | nil => exact covers_readAfterWhole negative 0 0 [] n rest h
      | cons d after =>
        simp only at h ⊢
        split_ifs at h ⊢
        exact covers_readAfterWhole negative 0 0 (d :: after) n rest h
    · rw [afterDigits_cons hdigit] at h
      exact covers_readAfterWhole _ _ _ _ n rest h

/-! ## Strings -/

theorem length_of_readFourDigits {text rest : List UInt8} {n : Nat}
    (h : readFourDigits text = .ok (n, rest)) : text.length = rest.length + 4 := by
  unfold readFourDigits at h
  split at h
  · split at h
    · cases h
      rfl
    · cases h
  · cases h

theorem passEscape_codePoint {text rest : List UInt8} {n : Nat}
    (h : readFourDigits text = .ok (n, rest)) :
    passEscape (Text.byte 'u' :: text) = .ok ((), rest) := by
  simp only [passEscape, if_neg (show Text.byte 'u' ∉ escapeLetters by decide), if_true, h]
  rfl

/-- The second half of a pair of surrogates is an escape of its own. -/
theorem eq_of_readSecondSurrogate {first n : Nat} {text rest : List UInt8}
    (h : readSecondSurrogate first text = .ok (n, rest)) :
    ∃ m after, text = Text.byte '\\' :: Text.byte 'u' :: after ∧
      readFourDigits after = .ok (m, rest) := by
  cases text with
  | nil => cases h
  | cons b text =>
    simp only [readSecondSurrogate] at h
    split_ifs at h with hslash
    cases text with
    | nil => cases h
    | cons u after =>
      simp only at h
      split_ifs at h with hu
      obtain ⟨⟨second, rest'⟩, hdigits, h⟩ := bind_eq_ok.mp h
      simp only at h
      split_ifs at h
      obtain ⟨-, rfl⟩ := Prod.mk.inj (Except.ok.inj h)
      exact ⟨second, after, by rw [hslash, hu], hdigits⟩

/-- An escape that is read is passed over in one step or, as a pair of surrogates, in two. -/
theorem passStringBytes_escape {text rest bytes : List UInt8}
    (h : readEscape text = .ok (bytes, rest)) {fuel : Nat} (hfuel : text.length ≤ fuel) :
    ∃ left, rest.length ≤ left ∧
      passStringBytes (fuel + 1) (Text.byte '\\' :: text) = passStringBytes left rest := by
  have hstep {rest' : List UInt8} (hpass : passEscape text = .ok ((), rest')) :
      passStringBytes (fuel + 1) (Text.byte '\\' :: text) = passStringBytes fuel rest' := by
    simp only [passStringBytes, if_neg (show Text.byte '\\' ≠ Text.byte '"' by decide), if_true,
      hpass]
    rfl
  cases text with
  | nil => cases h
  | cons b text =>
    simp only [List.length_cons] at hfuel
    have hletter {bytes' : List UInt8} (hb : b ∈ escapeLetters)
        (heq : (Except.ok (bytes', text) : Except Stop _) = .ok (bytes, rest)) :
        ∃ left, rest.length ≤ left ∧ passStringBytes (fuel + 1) (Text.byte '\\' :: b :: text) =
          passStringBytes left rest := by
      cases heq
      exact ⟨fuel, by omega, hstep (by simp only [passEscape, if_pos hb])⟩
    simp only [readEscape] at h
    split_ifs at h with hmark hb hf hn hr ht hu
    · exact hletter (by rcases hmark with rfl | rfl | rfl <;> decide) h
    · exact hletter (by rw [hb]; decide) h
    · exact hletter (by rw [hf]; decide) h
    · exact hletter (by rw [hn]; decide) h
    · exact hletter (by rw [hr]; decide) h
    · exact hletter (by rw [ht]; decide) h
    · obtain ⟨⟨n, rest'⟩, hpoint, h⟩ := bind_eq_ok.mp h
      obtain ⟨-, rfl⟩ := Prod.mk.inj (Except.ok.inj h)
      obtain ⟨⟨m, middle⟩, hdigits, hpoint⟩ := bind_eq_ok.mp hpoint
      have hlength := length_of_readFourDigits hdigits
      subst hu
      have hfirst := hstep (passEscape_codePoint hdigits)
      simp only at hpoint
      split_ifs at hpoint with hlow hhigh
      · -- a pair of surrogates, whose second half takes another step
        obtain ⟨second, after, rfl, hsecond⟩ := eq_of_readSecondSurrogate hpoint
        have hlength' := length_of_readFourDigits hsecond
        simp only [List.length_cons] at hlength
        obtain ⟨fuel, rfl⟩ : ∃ k, fuel = k + 1 := ⟨fuel - 1, by omega⟩
        refine ⟨fuel, show rest'.length ≤ fuel by omega, hfirst.trans ?_⟩
        simp only [passStringBytes, if_neg (show Text.byte '\\' ≠ Text.byte '"' by decide), if_true,
          passEscape_codePoint hsecond]
        rfl
      · cases hpoint
        exact ⟨fuel, show rest'.length ≤ fuel by omega, hfirst⟩

theorem passStringBytes_of_read {fuel : Nat} {read text bytes rest : List UInt8}
    (h : readStringBytes fuel read text = .ok (bytes, rest)) {steps : Nat}
    (hsteps : text.length ≤ steps) : passStringBytes steps text = .ok ((), rest) := by
  induction fuel generalizing read text steps with
  | zero => cases text <;> cases h
  | succ fuel ih =>
    cases text with
    | nil => cases h
    | cons b text =>
      simp only [List.length_cons] at hsteps
      obtain ⟨steps, rfl⟩ : ∃ k, steps = k + 1 := ⟨steps - 1, by omega⟩
      simp only [readStringBytes] at h
      split_ifs at h with hquote hslash hcontrol
      · cases h
        simp only [passStringBytes, if_pos hquote]
      · obtain ⟨⟨escaped, rest'⟩, hescape, h⟩ := bind_eq_ok.mp h
        obtain ⟨left, hleft, heq⟩ := passStringBytes_escape hescape (by omega : text.length ≤ steps)
        rw [hslash, heq]
        exact ih h hleft
      · simp only [passStringBytes, if_neg hquote, if_neg hslash, if_neg hcontrol]
        exact ih h (by omega)

theorem covers_readString : Covers passString readString := by
  intro text s rest h
  obtain ⟨⟨bytes, rest'⟩, hbytes, h⟩ := bind_eq_ok.mp h
  simp only at h
  split at h
  · cases h
    exact passStringBytes_of_read hbytes (Nat.le_refl _)
  · cases h

theorem covers_readScalar : Covers passScalar readScalar := by
  intro text v rest h
  cases text with
  | nil => cases h
  | cons b text =>
    simp only [readScalar] at h
    simp only [passScalar]
    split_ifs at h ⊢
    · exact covers_readWord _ _ _ _ _ h
    · exact covers_readWord _ _ _ _ _ h
    · exact covers_readWord _ _ _ _ _ h
    · obtain ⟨⟨s, rest'⟩, hread, h⟩ := bind_eq_ok.mp h
      cases h
      exact covers_readString _ _ _ hread
    · obtain ⟨⟨n, rest'⟩, hread, h⟩ := bind_eq_ok.mp h
      cases h
      exact covers_readNumber _ _ _ _ hread
    · obtain ⟨⟨n, rest'⟩, hread, h⟩ := bind_eq_ok.mp h
      cases h
      exact covers_readNumber _ _ _ _ hread

/-! ## Arrays and objects -/

/-- Blanks in front make no difference. -/
def PassesBlanks (pass : Reading Unit) : Prop :=
  ∀ text, pass (skipSpace text) = pass text

theorem skipSpace_skipSpace (text : List UInt8) : skipSpace (skipSpace text) = skipSpace text :=
  List.dropWhile_idempotent _ _

theorem passesBlanks_passItems {pass : Reading Unit} (blanks : PassesBlanks pass) (fuel : Nat) :
    PassesBlanks (passItems pass fuel) := by
  intro text
  cases fuel with
  | zero => rfl
  | succ fuel => simp only [passItems, blanks text]

theorem covers_readItems {pass : Reading Unit} {item : Reading α} (blanks : PassesBlanks pass)
    (covers : Covers pass item) (fuel : Nat) (read : List α) :
    Covers (passItems pass fuel) (readItems item fuel read) := by
  intro text items rest h
  induction fuel generalizing read text with
  | zero => cases h
  | succ fuel ih =>
    obtain ⟨⟨value, after⟩, hvalue, h⟩ := bind_eq_ok.mp h
    refine bind_eq_ok.mpr ⟨((), after), covers _ _ _ hvalue, ?_⟩
    simp only at h
    cases hmark : skipSpace after with
    | nil =>
      simp only [hmark] at h
      cases h
    | cons b tail =>
      simp only [hmark] at h ⊢
      split_ifs at h ⊢ with hclose hcomma
      · cases h
        rfl
      · split at h
        · cases h
        · rename_i c next hnext
          split_ifs at h
          rw [← hnext] at h
          rw [← passesBlanks_passItems blanks fuel]
          exact ih _ _ h

theorem covers_readArray {pass : Reading Unit} {item : Reading α} (blanks : PassesBlanks pass)
    (covers : Covers pass item) : Covers (passArray pass) (readArray item) := by
  intro text items rest h
  unfold readArray at h
  unfold passArray
  cases hmark : skipSpace text with
  | nil =>
    simp only [hmark] at h
    cases h
  | cons b inner =>
    simp only [hmark] at h ⊢
    split_ifs at h ⊢
    · cases h
      rfl
    · exact covers_readItems blanks covers _ _ _ _ _ h

theorem passMembers_of_read {pass : Reading Unit} {item : Reading α} (covers : Covers pass item)
    {fuel : Nat} {read members : List (String × α)} {text text' rest : List UInt8}
    (h : readMembers item fuel read text = .ok (members, rest))
    (hquote : skipSpace text' = Text.byte '"' :: text) :
    passMembers pass fuel text' = .ok ((), rest) := by
  induction fuel generalizing read text text' with
  | zero => cases h
  | succ fuel ih =>
    obtain ⟨⟨member, after⟩, hmember, h⟩ := bind_eq_ok.mp h
    obtain ⟨⟨name, named⟩, hname, hmember⟩ := bind_eq_ok.mp hmember
    obtain ⟨⟨_, valued⟩, hcolon, hmember⟩ := bind_eq_ok.mp hmember
    obtain ⟨⟨value, left⟩, hvalue, hmember⟩ := bind_eq_ok.mp hmember
    obtain ⟨-, rfl⟩ := Prod.mk.inj (Except.ok.inj hmember)
    simp only [passMembers, hquote, if_true]
    refine bind_eq_ok.mpr ⟨((), named), covers_readString _ _ _ hname, ?_⟩
    refine bind_eq_ok.mpr ⟨((), valued), hcolon, ?_⟩
    refine bind_eq_ok.mpr ⟨((), left), covers _ _ _ hvalue, ?_⟩
    simp only at h
    cases hmark : skipSpace left with
    | nil =>
      simp only [hmark] at h
      cases h
    | cons b tail =>
      simp only [hmark] at h ⊢
      split_ifs at h ⊢ with hclose hcomma
      · cases h
        rfl
      · split at h
        · cases h
        · rename_i c next hnext
          split_ifs at h with hnextQuote
          exact ih h (by rw [hnext, hnextQuote])

theorem covers_readObject {pass : Reading Unit} {item : Reading α} (covers : Covers pass item) :
    Covers (passObject pass) (readObject item) := by
  intro text members rest h
  unfold readObject at h
  unfold passObject
  cases hmark : skipSpace text with
  | nil =>
    simp only [hmark] at h
    cases h
  | cons b inner =>
    simp only [hmark] at h ⊢
    split_ifs at h ⊢ with hclose hquote
    · cases h
      rfl
    · refine passMembers_of_read covers h ?_
      rw [hquote]
      rfl

/-! ## Values -/

theorem passesBlanks_passWithin (depth : Nat) : PassesBlanks (passWithin depth) := by
  intro text
  cases depth with
  | zero => rfl
  | succ depth => simp only [passWithin, skipSpace_skipSpace]

theorem covers_readNested (arranged : List (String × Value) → Members) (depth : Nat) :
    Covers (passWithin (depth + 1)) (readNested arranged depth) := by
  induction depth with
  | zero =>
    intro text v rest h
    unfold readNested readWith at h
    rw [passWithin]
    cases hmark : skipSpace text with
    | nil =>
      simp only [hmark] at h
      cases h
    | cons b inner =>
      simp only [hmark] at h ⊢
      split_ifs at h ⊢
      exact covers_readScalar _ _ _ h
  | succ depth ih =>
    intro text v rest h
    rw [readNested] at h
    unfold readWith at h
    rw [passWithin]
    cases hmark : skipSpace text with
    | nil =>
      simp only [hmark] at h
      cases h
    | cons b inner =>
      simp only [hmark] at h ⊢
      split_ifs at h ⊢
      · obtain ⟨⟨items, rest'⟩, hitems, h⟩ := bind_eq_ok.mp h
        cases h
        exact covers_readArray (passesBlanks_passWithin _) ih _ _ _ hitems
      · obtain ⟨⟨members, rest'⟩, hmembers, h⟩ := bind_eq_ok.mp h
        cases h
        exact covers_readObject ih _ _ _ hmembers
      · exact covers_readScalar _ _ _ h

end TableGateway.Json
