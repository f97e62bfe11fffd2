import Mathlib.Data.List.TakeWhile
import TableGateway.Page
import TableGateway.Proofs.Cutting

-- The laws of numerals. How a number is written is said here without a reader, and the readers
-- take exactly the texts that are written so. A whole number is written with digits and at most
-- one hyphen in front, and what is written is read as the same number.

namespace TableGateway

namespace Text

/-! ## Digits -/

/-- One or more digits write a number. The first digit counts most. -/
structure IsDigits (cs : List Char) (n : Nat) : Prop where
  nonempty : cs ≠ []
  digits : ∀ c ∈ cs, '0' ≤ c ∧ c ≤ '9'
  value : Nat.ofDigitChars 10 cs 0 = n

theorem isDigit_iff {c : Char} : isDigit c = true ↔ '0' ≤ c ∧ c ≤ '9' := by
  simp only [isDigit, Bool.and_eq_true, decide_eq_true_eq, Char.le_def, UInt32.le_iff_toNat_le]
  exact Iff.rfl

theorem isDigit_of_mem_toDigits {c : Char} {n : Nat} (h : c ∈ Nat.toDigits 10 n) :
    isDigit c = true := by
  have hdigit : c.isDigit = true := Nat.isDigit_of_mem_toDigits (by decide) (by decide) h
  simp only [Char.isDigit, Bool.and_eq_true, decide_eq_true_eq] at hdigit
  exact isDigit_iff.mpr hdigit

theorem isBlank_of_isDigit {c : Char} (h : isDigit c = true) : isBlank c = false := by
  simp only [isDigit, Bool.and_eq_true, decide_eq_true_eq] at h
  simp [isBlank]
  omega

theorem digitsValue_eq (cs : List Char) : digitsValue cs = Nat.ofDigitChars 10 cs 0 := by
  unfold digitsValue Nat.ofDigitChars
  congr 1
  funext n c
  rw [Nat.mul_comm]
  rfl

/-- The reader of digits takes exactly the digits. -/
theorem natural?_eq_some {cs : List Char} {n : Nat} : natural? cs = some n ↔ IsDigits cs n := by
  unfold natural?
  constructor
  · intro h
    split at h
    · rename_i hcs
      cases h
      exact ⟨hcs.1, fun c hc => isDigit_iff.mp (List.all_eq_true.mp hcs.2 c hc),
        (digitsValue_eq cs).symm⟩
    · cases h
  · rintro ⟨hne, hdigits, rfl⟩
    have hall : cs.all isDigit = true :=
      List.all_eq_true.mpr fun c hc => isDigit_iff.mpr (hdigits c hc)
    rw [if_pos ⟨hne, hall⟩, digitsValue_eq]

theorem isDigits_toDigits (n : Nat) : IsDigits (Nat.toDigits 10 n) n :=
  ⟨Nat.toDigits_ne_nil, fun _ hc => isDigit_iff.mp (isDigit_of_mem_toDigits hc),
    Nat.ofDigitChars_ten_toDigits⟩

/-! ## Signs -/

/-- Digits with at most one plus in front write a number that is not negative. -/
inductive IsUnsigned : List Char → Nat → Prop where
  | plain {cs : List Char} {n : Nat} (digits : IsDigits cs n) : IsUnsigned cs n
  | plus {cs : List Char} {n : Nat} (digits : IsDigits cs n) : IsUnsigned ('+' :: cs) n

/-- Digits with at most one sign in front write a number. -/
inductive IsNumeral : List Char → Int → Prop where
  | unsigned {cs : List Char} {n : Nat} (number : IsUnsigned cs n) : IsNumeral cs n
  | minus {cs : List Char} {n : Nat} (digits : IsDigits cs n) : IsNumeral ('-' :: cs) (-n)

theorem IsUnsigned.mem {cs : List Char} {n : Nat} (h : IsUnsigned cs n) {c : Char} (hc : c ∈ cs) :
    c = '+' ∨ isDigit c = true := by
  cases h with
  | plain digits => exact .inr (isDigit_iff.mpr (digits.digits c hc))
  | plus digits =>
    rcases List.mem_cons.mp hc with rfl | hc
    · exact .inl rfl
    · exact .inr (isDigit_iff.mpr (digits.digits c hc))

/-- A number has no blank character in it. -/
theorem IsUnsigned.solid {cs : List Char} {n : Nat} (h : IsUnsigned cs n) :
    ∀ c ∈ cs, isBlank c = false := by
  intro c hc
  rcases h.mem hc with rfl | hdigit
  · decide
  · exact isBlank_of_isDigit hdigit

theorem IsNumeral.solid {cs : List Char} {n : Int} (h : IsNumeral cs n) :
    ∀ c ∈ cs, isBlank c = false := by
  cases h with
  | unsigned number => exact number.solid
  | minus digits =>
    intro c hc
    rcases List.mem_cons.mp hc with rfl | hc
    · decide
    · exact isBlank_of_isDigit (isDigit_iff.mpr (digits.digits c hc))

/-- A number without a minus is digits, with a plus at most. -/
theorem IsNumeral.unsigned_of_free {cs : List Char} {n : Int} (h : IsNumeral cs n)
    (free : '-' ∉ cs) : ∃ m : Nat, IsUnsigned cs m ∧ n = m := by
  cases h with
  | unsigned number => exact ⟨_, number, rfl⟩
  | minus digits => exact absurd List.mem_cons_self free

theorem isDigits_of_natural {cs : List Char} {n : Int}
    (h : ((natural? cs).bind fun m => some (m : Int)) = some n) :
    ∃ m : Nat, IsDigits cs m ∧ n = m := by
  obtain ⟨m, hm, heq⟩ := Option.bind_eq_some_iff.mp h
  exact ⟨m, natural?_eq_some.mp hm, (Option.some.inj heq).symm⟩

/-- The reader of numbers takes exactly the numerals. -/
theorem integer?_eq_some {cs : List Char} {n : Int} : integer? cs = some n ↔ IsNumeral cs n := by
  unfold integer?
  constructor
  · intro h
    split at h
    · obtain ⟨_, hm, rfl⟩ := Option.map_eq_some_iff.mp h
      obtain ⟨m, hdigits, rfl⟩ := isDigits_of_natural hm
      exact .minus hdigits
    · obtain ⟨_, hm, rfl⟩ := Option.map_eq_some_iff.mp h
      obtain ⟨m, hdigits, rfl⟩ := isDigits_of_natural hm
      exact .unsigned (.plus hdigits)
    · obtain ⟨_, hm, rfl⟩ := Option.map_eq_some_iff.mp h
      obtain ⟨m, hdigits, rfl⟩ := isDigits_of_natural hm
      exact .unsigned (.plain hdigits)
  · intro h
    cases h with
    | minus digits => simp [natural?_eq_some.mpr digits]
    | unsigned number =>
      cases number with
      | plus digits => simp [natural?_eq_some.mpr digits]
      | plain digits =>
        -- No digit is a sign.
        split
        · exact absurd (digits.digits '-' List.mem_cons_self) (by decide)
        · exact absurd (digits.digits '+' List.mem_cons_self) (by decide)
        · simp [natural?_eq_some.mpr digits]

theorem int64?_eq_some {s : String} {n : Int} :
    int64? s = some n ↔ IsNumeral s.toList n ∧ minInt64 ≤ n ∧ n ≤ maxInt64 := by
  simp [int64?, Option.filter_eq_some_iff, integer?_eq_some]

/-- A number without a hyphen is not negative. -/
theorem int64?_nonneg {s : String} {n : Int} (h : int64? s = some n) (free : '-' ∉ s.toList) :
    0 ≤ n := by
  obtain ⟨m, _, rfl⟩ := (int64?_eq_some.mp h).1.unsigned_of_free free
  exact Int.natCast_nonneg m

/-- A whole number is written as a numeral. -/
theorem isNumeral_wholeText (n : Int) : IsNumeral (Json.wholeText n) n := by
  unfold Json.wholeText
  split
  · rename_i hneg
    have hminus : IsNumeral ('-' :: Nat.toDigits 10 n.natAbs) (-(n.natAbs : Int)) :=
      .minus (isDigits_toDigits _)
    rwa [Int.ofNat_natAbs_of_nonpos (by omega), Int.neg_neg] at hminus
  · rename_i hneg
    have hplain : IsNumeral (Nat.toDigits 10 n.toNat) (n.toNat : Int) :=
      .unsigned (.plain (isDigits_toDigits _))
    rwa [Int.toNat_of_nonneg (Int.not_lt.mp hneg)] at hplain

/-! ## Blanks around a text -/

/-- A text stands among blank characters: nothing else comes before it and behind it. -/
def IsPadded (core cs : List Char) : Prop :=
  ∃ front back, cs = front ++ core ++ back ∧ (∀ c ∈ front, isBlank c = true) ∧
    ∀ c ∈ back, isBlank c = true

theorem isPadded_trimChars (cs : List Char) : IsPadded (trimChars cs) cs := by
  let rest := cs.dropWhile isBlank
  refine ⟨cs.takeWhile isBlank, (rest.reverse.takeWhile isBlank).reverse, ?_,
    fun c hc => List.mem_takeWhile_imp hc,
    fun c hc => List.mem_takeWhile_imp (List.mem_reverse.mp hc)⟩
  have hrest : rest = trimChars cs ++ (rest.reverse.takeWhile isBlank).reverse := by
    unfold trimChars
    rw [← List.reverse_append, List.takeWhile_append_dropWhile, List.reverse_reverse]
  rw [List.append_assoc, ← hrest]
  exact List.takeWhile_append_dropWhile.symm

/-- Blank characters in front are dropped, up to a character that is not blank. -/
theorem dropWhile_of_blanks {front core : List Char} (blank : ∀ c ∈ front, isBlank c = true)
    (solid : ∀ c ∈ core, isBlank c = false) (nonempty : core ≠ []) (rest : List Char) :
    (front ++ (core ++ rest)).dropWhile isBlank = core ++ rest := by
  rw [List.dropWhile_append_of_pos blank]
  cases core with
  | nil => exact absurd rfl nonempty
  | cons c core =>
    rw [List.cons_append, List.dropWhile_cons_of_neg (by simp [solid c List.mem_cons_self])]

/-- Trimming takes the blank characters off, and nothing else. -/
theorem trimChars_of_padded {core cs : List Char} (h : IsPadded core cs)
    (solid : ∀ c ∈ core, isBlank c = false) : trimChars cs = core := by
  obtain ⟨front, back, rfl, hfront, hback⟩ := h
  by_cases hcore : core = []
  · subst hcore
    have hall : ∀ c ∈ front ++ [] ++ back, isBlank c = true := by
      intro c hc
      rcases List.mem_append.mp hc with hc | hc
      · exact hfront c (by simpa using hc)
      · exact hback c hc
    have hnone : (front ++ [] ++ back).dropWhile isBlank = [] := List.dropWhile_eq_nil_iff.mpr hall
    rw [trimChars, hnone]
    rfl
  · have hlast : (back.reverse ++ (core.reverse ++ [])).dropWhile isBlank = core.reverse ++ [] :=
      dropWhile_of_blanks (fun c hc => hback c (List.mem_reverse.mp hc))
        (fun c hc => solid c (List.mem_reverse.mp hc)) (by simpa using hcore) []
    rw [List.append_nil] at hlast
    rw [trimChars, List.append_assoc, dropWhile_of_blanks hfront solid hcore, List.reverse_append,
      hlast, List.reverse_reverse]

theorem toList_trim (s : String) : (trim s).toList = trimChars s.toList :=
  String.toList_ofList

theorem isPadded_trim (s : String) : IsPadded (trim s).toList s.toList := by
  rw [toList_trim]
  exact isPadded_trimChars s.toList

theorem mem_of_mem_trim {s : String} {c : Char} (h : c ∈ (trim s).toList) : c ∈ s.toList := by
  obtain ⟨front, back, heq, _, _⟩ := isPadded_trim s
  rw [heq]
  exact List.mem_append_left _ (List.mem_append_right _ h)

theorem trim_of_padded {core : List Char} {s : String} (h : IsPadded core s.toList)
    (solid : ∀ c ∈ core, isBlank c = false) : trim s = String.ofList core := by
  rw [trim, trimChars_of_padded h solid]

/-- A text with no blank character is its own trimmed text. -/
theorem trim_of_solid {s : String} (h : ∀ c ∈ s.toList, isBlank c = false) : trim s = s := by
  rw [trim_of_padded ⟨[], [], by simp, by simp, by simp⟩ h, String.ofList_toList]

end Text

namespace Page

/-! ## Whole numbers -/

theorem toList_numeral (n : Int) : (numeral n).toList = Json.wholeText n :=
  String.toList_ofList

/-- The numeral of a number that is not negative is its digits. -/
theorem numeral_natCast (n : Nat) : numeral n = n.repr := by
  rw [Nat.repr_eq_ofList_toDigits]
  change String.ofList (Json.wholeText n) = _
  unfold Json.wholeText
  rw [if_neg (Int.not_lt.mpr (Int.natCast_nonneg n)), Int.toNat_natCast]

theorem mem_numeral {n : Int} {c : Char} (h : c ∈ (numeral n).toList) :
    c = '-' ∧ n < 0 ∨ Text.isDigit c = true := by
  rw [toList_numeral] at h
  unfold Json.wholeText at h
  split at h
  · rename_i hneg
    rcases List.mem_cons.mp h with rfl | h
    · exact .inl ⟨rfl, hneg⟩
    · exact .inr (Text.isDigit_of_mem_toDigits h)
  · exact .inr (Text.isDigit_of_mem_toDigits h)

/-- A numeral holds no character but digits and hyphens. -/
theorem not_mem_numeral {c : Char} (hyphen : c ≠ '-') (digit : Text.isDigit c = false) (n : Int) :
    c ∉ (numeral n).toList := by
  intro h
  rcases mem_numeral h with ⟨heq, _⟩ | hdigit
  · exact hyphen heq
  · rw [digit] at hdigit
    cases hdigit

theorem hyphen_not_mem_numeral {n : Int} (h : 0 ≤ n) : '-' ∉ (numeral n).toList := by
  intro hmem
  rcases mem_numeral hmem with ⟨_, hneg⟩ | hdigit
  · omega
  · exact absurd hdigit (by decide)

theorem numeral_ne_empty (n : Int) : numeral n ≠ "" := by
  intro h
  have hlist := congrArg String.toList h
  rw [toList_numeral] at hlist
  unfold Json.wholeText at hlist
  split at hlist
  · cases hlist
  · exact Nat.toDigits_ne_nil hlist

theorem integer?_numeral (n : Int) : Text.integer? (numeral n).toList = some n := by
  rw [toList_numeral]
  exact Text.integer?_eq_some.mpr (Text.isNumeral_wholeText n)

theorem numeral_inj {n m : Int} (h : numeral n = numeral m) : n = m := by
  have hread := integer?_numeral n
  rw [h, integer?_numeral] at hread
  exact (Option.some.inj hread).symm

theorem eq_of_repr_eq_numeral {n : Nat} {m : Int} (h : n.repr = numeral m) : (n : Int) = m :=
  numeral_inj ((numeral_natCast n).trans h)

theorem hyphen_not_mem_repr (n : Nat) : '-' ∉ n.repr.toList := by
  rw [← numeral_natCast]
  exact hyphen_not_mem_numeral (Int.natCast_nonneg n)

theorem slash_not_mem_repr (n : Nat) : '/' ∉ n.repr.toList := by
  rw [← numeral_natCast]
  exact not_mem_numeral (by decide) (by decide) _

/-- A number of sixty-four bits is read back from its numeral. -/
theorem int64?_numeral {n : Int} (low : Text.minInt64 ≤ n) (high : n ≤ Text.maxInt64) :
    Text.int64? (numeral n) = some n := by
  unfold Text.int64?
  rw [integer?_numeral]
  simp [low, high]

theorem isBlank_of_mem_numeral {n : Int} {c : Char} (h : c ∈ (numeral n).toList) :
    Text.isBlank c = false := by
  rcases mem_numeral h with ⟨rfl, _⟩ | hdigit
  · decide
  · exact Text.isBlank_of_isDigit hdigit

theorem trim_numeral (n : Int) : Text.trim (numeral n) = numeral n :=
  Text.trim_of_solid fun _ h => isBlank_of_mem_numeral h

end Page

end TableGateway
