import TableGateway.Proofs.PassingOver

-- The laws of nesting. Passing over a value leaves no more text than there was, so brackets do
-- not nest deeper than a text is long, and no depth stands in the way of passing over.

namespace TableGateway.Json

open Fallible

variable {α : Type}

/-! ## What is left -/

/-- No more text is left than there was. -/
def Shrinks (pass : Reading Unit) : Prop :=
  ∀ text rest, pass text = .ok ((), rest) → rest.length ≤ text.length

theorem length_skipSpace_le (text : List UInt8) : (skipSpace text).length ≤ text.length :=
  List.length_dropWhile_le _ _

theorem length_of_skipSpace {b : UInt8} {text rest : List UInt8} (h : skipSpace text = b :: rest) :
    rest.length < text.length := by
  have := length_skipSpace_le text
  rw [h] at this
  exact this

theorem length_afterDigits_le (text : List UInt8) : (afterDigits text).length ≤ text.length :=
  List.length_dropWhile_le _ _

theorem shrinks_readWord (word : List UInt8) : Shrinks (readWord () word) := by
  induction word with
  | nil =>
    rintro text rest h
    cases h
    exact Nat.le_refl _
  | cons w word ih =>
    intro text rest h
    cases text with
    | nil => cases h
    | cons b text =>
      unfold readWord at h
      split_ifs at h
      have := ih text rest h
      simp only [List.length_cons]
      omega

theorem shrinks_passExponent : Shrinks passExponent := by
  intro text rest h
  unfold passExponent at h
  simp only at h
  split at h
  · cases h
  · rename_i digits b after hdigits
    split_ifs at h
    cases h
    have hafter := length_afterDigits_le after
    have hlength := congrArg List.length hdigits
    split at hlength
    · split at hlength <;> simp only [List.length_cons] at hlength ⊢ <;> omega
    · cases hlength

theorem shrinks_passScale : Shrinks passScale := by
  intro text rest h
  cases text with
  | nil =>
    cases h
    exact Nat.le_refl _
  | cons b text =>
    simp only [passScale] at h
    split_ifs at h
    · have := shrinks_passExponent text rest h
      simp only [List.length_cons]
      omega
    · cases h
      exact Nat.le_refl _

theorem shrinks_passAfterWhole : Shrinks passAfterWhole := by
  intro text rest h
  cases text with
  | nil =>
    cases h
    exact Nat.le_refl _
  | cons b text =>
    simp only [passAfterWhole] at h
    split_ifs at h
    · split at h
      · cases h
      · rename_i d after
        split_ifs at h
        have hscale := shrinks_passScale _ rest h
        have hafter := length_afterDigits_le after
        simp only [List.length_cons]
        omega
    · exact shrinks_passScale _ rest h

theorem shrinks_passNumber : Shrinks passNumber := by
  intro text rest h
  cases text with
  | nil => cases h
  | cons b text =>
    simp only [passNumber] at h
    split_ifs at h
    · split at h
      · rename_i d after
        split_ifs at h
        have := shrinks_passAfterWhole _ rest h
        simp only [List.length_cons] at this ⊢
        omega
      · cases h
        exact Nat.zero_le _
    · have hwhole := shrinks_passAfterWhole _ rest h
      have hafter := length_afterDigits_le text
      simp only [List.length_cons]
      omega

theorem shrinks_passEscape : Shrinks passEscape := by
  intro text rest h
  cases text with
  | nil => cases h
  | cons b text =>
    simp only [passEscape] at h
    split_ifs at h
    · cases h
      exact Nat.le_succ _
    · obtain ⟨⟨n, after⟩, hdigits, h⟩ := bind_eq_ok.mp h
      cases h
      have := length_of_readFourDigits hdigits
      simp only [List.length_cons]
      omega

theorem shrinks_passStringBytes (fuel : Nat) : Shrinks (passStringBytes fuel) := by
  intro text rest h
  induction fuel generalizing text with
  | zero => cases text <;> cases h
  | succ fuel ih =>
    cases text with
    | nil => cases h
    | cons b text =>
      simp only [passStringBytes] at h
      simp only [List.length_cons]
      split_ifs at h
      · cases h
        exact Nat.le_succ _
      · obtain ⟨⟨_, after⟩, hescape, h⟩ := bind_eq_ok.mp h
        have hafter := shrinks_passEscape _ _ hescape
        have hrest := ih _ h
        simp only at hrest
        omega
      · have := ih _ h
        omega

theorem shrinks_passString : Shrinks passString :=
  fun text => shrinks_passStringBytes text.length text

theorem shrinks_passScalar : Shrinks passScalar := by
  intro text rest h
  cases text with
  | nil => cases h
  | cons b text =>
    simp only [passScalar] at h
    simp only [List.length_cons]
    split_ifs at h
    · exact Nat.le_succ_of_le (shrinks_readWord _ _ _ h)
    · exact Nat.le_succ_of_le (shrinks_readWord _ _ _ h)
    · exact Nat.le_succ_of_le (shrinks_readWord _ _ _ h)
    · exact Nat.le_succ_of_le (shrinks_passString _ _ h)
    · exact Nat.le_succ_of_le (shrinks_passNumber _ _ h)
    · exact shrinks_passNumber _ _ h

theorem shrinks_readColon : Shrinks readColon := by
  intro text rest h
  unfold readColon at h
  split at h
  · cases h
  · rename_i b after hmark
    split_ifs at h
    cases h
    exact Nat.le_of_lt (length_of_skipSpace hmark)

/-! ## Depth -/

/-- In texts of a length at most, `deep` passes over what `pass` does, which leaves no more text
than there was. -/
def Extends (length : Nat) (pass deep : Reading Unit) : Prop :=
  ∀ text rest, text.length ≤ length → pass text = .ok ((), rest) →
    deep text = .ok ((), rest) ∧ rest.length ≤ text.length

section Deeper

variable {pass deep : Reading Unit} {length : Nat}

theorem extends_passItems (extend : Extends length pass deep) (fuel : Nat) :
    Extends length (passItems pass fuel) (passItems deep fuel) := by
  intro text rest hlength h
  induction fuel generalizing text with
  | zero => cases h
  | succ fuel ih =>
    obtain ⟨⟨_, after⟩, hitem, h⟩ := bind_eq_ok.mp h
    obtain ⟨hdeep, hafter⟩ := extend _ _ hlength hitem
    simp only at h
    simp only [passItems, hdeep, bind, Except.bind]
    split at h
    · cases h
    · rename_i b tail hmark
      have htail := length_of_skipSpace hmark
      split_ifs at h ⊢
      · cases h
        exact ⟨rfl, by omega⟩
      · obtain ⟨heq, hrest⟩ := ih tail (by omega) h
        exact ⟨heq, by omega⟩

theorem extends_passArray (extend : Extends length pass deep) :
    Extends length (passArray pass) (passArray deep) := by
  intro text rest hlength h
  unfold passArray at h ⊢
  split at h
  · cases h
  · rename_i b inner hmark
    have hinner := length_of_skipSpace hmark
    split_ifs at h ⊢
    · cases h
      exact ⟨rfl, by omega⟩
    · obtain ⟨heq, hrest⟩ :=
        extends_passItems extend _ _ _ (by simp only [List.length_cons]; omega) h
      simp only [List.length_cons] at hrest
      exact ⟨heq, by omega⟩

theorem extends_passMembers (extend : Extends length pass deep) (fuel : Nat) :
    Extends length (passMembers pass fuel) (passMembers deep fuel) := by
  intro text rest hlength h
  induction fuel generalizing text with
  | zero => cases h
  | succ fuel ih =>
    simp only [passMembers] at h ⊢
    split at h
    · cases h
    · rename_i b inner hmark
      have hinner := length_of_skipSpace hmark
      split_ifs at h ⊢
      obtain ⟨⟨_, named⟩, hname, h⟩ := bind_eq_ok.mp h
      obtain ⟨⟨_, valued⟩, hcolon, h⟩ := bind_eq_ok.mp h
      obtain ⟨⟨_, after⟩, hvalue, h⟩ := bind_eq_ok.mp h
      have hnamed := shrinks_passString _ _ hname
      have hvalued := shrinks_readColon _ _ hcolon
      simp only at hvalued hvalue h
      obtain ⟨hdeep, hafter⟩ := extend valued after (by omega) hvalue
      simp only [hname, hcolon, hdeep, bind, Except.bind]
      split at h
      · cases h
      · rename_i c tail hnext
        have htail := length_of_skipSpace hnext
        split_ifs at h ⊢
        · cases h
          exact ⟨rfl, by omega⟩
        · obtain ⟨heq, hrest⟩ := ih tail (by omega) h
          exact ⟨heq, by omega⟩

theorem extends_passObject (extend : Extends length pass deep) :
    Extends length (passObject pass) (passObject deep) := by
  intro text rest hlength h
  unfold passObject at h ⊢
  split at h
  · cases h
  · rename_i b inner hmark
    have hinner := length_of_skipSpace hmark
    split_ifs at h ⊢
    · cases h
      exact ⟨rfl, by omega⟩
    · obtain ⟨heq, hrest⟩ :=
        extends_passMembers extend _ _ _ (by simp only [List.length_cons]; omega) h
      simp only [List.length_cons] at hrest
      exact ⟨heq, by omega⟩

end Deeper

/-- Brackets do not nest deeper than a text is long. -/
theorem extends_passWithin (depth : Nat) {length deep : Nat} (hdeep : length < deep) :
    Extends length (passWithin depth) (passWithin deep) := by
  induction depth generalizing length deep with
  | zero =>
    intro text rest _ h
    cases h
  | succ depth ih =>
    intro text rest hlength h
    obtain ⟨deep, rfl⟩ : ∃ k, deep = k + 1 := ⟨deep - 1, by omega⟩
    simp only [passWithin] at h ⊢
    split at h
    · cases h
    · rename_i b inner hmark
      have hinner := length_of_skipSpace hmark
      have inside : Extends inner.length (passWithin depth) (passWithin deep) := ih (by omega)
      split_ifs at h ⊢
      · obtain ⟨heq, hrest⟩ := extends_passArray inside _ _ (Nat.le_refl _) h
        exact ⟨heq, by omega⟩
      · obtain ⟨heq, hrest⟩ := extends_passObject inside _ _ (Nat.le_refl _) h
        exact ⟨heq, by omega⟩
      · have := shrinks_passScalar _ _ h
        simp only [List.length_cons] at this
        exact ⟨h, by omega⟩

/-- What can be read within any depth can be passed over. -/
theorem Covers.passOver {depth : Nat} {reading : Reading α}
    (h : Covers (passWithin depth) reading) : Covers passOver reading := by
  intro text a rest hread
  exact (extends_passWithin depth (Nat.lt_succ_self _) text rest (Nat.le_refl _)
    (h text a rest hread)).1

/-- A value that can be passed over leaves no more text than there was. -/
theorem Covers.length_le {reading : Reading α} (h : Covers Json.passOver reading)
    {text rest : List UInt8} {a : α} (hread : reading text = .ok (a, rest)) :
    rest.length ≤ text.length :=
  (extends_passWithin _ (Nat.lt_succ_self _) text rest (Nat.le_refl _) (h text a rest hread)).2

end TableGateway.Json
