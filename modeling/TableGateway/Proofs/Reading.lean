import TableGateway.Json.Reader
import TableGateway.Proofs.Cutting
import TableGateway.Proofs.Nesting

-- The laws of readers. A reader takes the first bytes of a text and leaves the rest. What it gives
-- depends on the bytes that it takes and, at the end of a numeral, on the next one, but neither on
-- what comes after nor on how much deeper brackets might nest.

namespace TableGateway.Json

open Fallible

variable {α β : Type}

/-! ## Whole texts and marks -/

theorem readAll_eq_ok {reading : Reading α} {text : List UInt8} {a : α} :
    readAll reading text = .ok a ↔ ∃ rest, reading text = .ok (a, rest) ∧ skipSpace rest = [] := by
  unfold readAll
  cases hread : reading text with
  | error stop => exact ⟨nofun, fun ⟨_, h, _⟩ => nomatch h⟩
  | ok found =>
    obtain ⟨b, left⟩ := found
    simp only [Except.ok.injEq, Prod.mk.injEq]
    split
    · rename_i hblank
      constructor
      · intro h
        exact ⟨left, ⟨Except.ok.inj h, rfl⟩, hblank⟩
      · rintro ⟨rest, ⟨rfl, rfl⟩, _⟩
        rfl
    · rename_i hmark
      constructor
      · exact nofun
      · rintro ⟨rest, ⟨rfl, rfl⟩, hblank⟩
        cases hmark.symm.trans hblank

theorem readAll_of_stop {reading : Reading α} {text : List UInt8} {stop : Stop}
    (h : reading text = .error stop) : readAll reading text = .error (stop.located text) := by
  rw [readAll, h]

/-- A value that does not start with a bracket is read as a scalar. -/
theorem readNested_of_scalar {arranged : List (String × Value) → Members} {depth : Nat}
    {text inner : List UInt8} {b : UInt8} (hmark : skipSpace text = b :: inner)
    (array : b ≠ Text.byte '[') (object : b ≠ Text.byte openBrace) :
    readNested arranged depth text = readScalar (b :: inner) := by
  cases depth with
  | zero => simp only [readNested, readWith, hmark, if_neg array, if_neg object]
  | succ depth => simp only [readNested, readWith, hmark, if_neg array, if_neg object]

theorem skipSpace_cons {b : UInt8} (h : isSpaceByte b = false) (rest : List UInt8) :
    skipSpace (b :: rest) = b :: rest :=
  List.dropWhile_cons_of_neg (by simp [h])

theorem not_isSpaceByte_of_skipSpace {text inner : List UInt8} {b : UInt8}
    (h : skipSpace text = b :: inner) : isSpaceByte b = false := by
  have hhead := List.head?_dropWhile_not isSpaceByte text
  rw [show text.dropWhile isSpaceByte = b :: inner from h] at hhead
  simpa using hhead

/-- A mark comes after blanks, and whatever comes after the mark, it is found. -/
theorem exists_blanks {text inner : List UInt8} {b : UInt8} (h : skipSpace text = b :: inner) :
    ∃ blanks, text = blanks ++ b :: inner ∧
      ∀ after, skipSpace (blanks ++ b :: after) = b :: after := by
  refine ⟨text.takeWhile isSpaceByte, ?_, fun after => ?_⟩
  · rw [← h]
    exact List.takeWhile_append_dropWhile.symm
  · have hall : ∀ c ∈ text.takeWhile isSpaceByte, isSpaceByte c = true := fun c hc =>
      List.mem_takeWhile_imp hc
    exact (List.dropWhile_append_of_pos hall).trans
      (skipSpace_cons (not_isSpaceByte_of_skipSpace h) after)

/-! ## What is taken -/

/-- What follows a numeral: nothing, or a byte that no numeral goes on with. -/
def EndsNumeral (text : List UInt8) : Prop :=
  ∀ b ∈ text.head?, isDigitByte b = false ∧ b ≠ Text.byte '.' ∧ isExponentMark b = false

theorem endsNumeral_nil : EndsNumeral [] := by
  intro b hb
  cases hb

theorem endsNumeral_cons {b : UInt8} (h : isDigitByte b = false ∧ b ≠ Text.byte '.' ∧
    isExponentMark b = false) (rest : List UInt8) : EndsNumeral (b :: rest) := by
  intro c hc
  cases hc
  exact h

/-- Where `rest` was left, `after` may stand: it starts with the same byte, or with none that a
numeral goes on with. -/
def Continues (rest after : List UInt8) : Prop :=
  after.head? = rest.head? ∨ EndsNumeral after

theorem Continues.append {rest after : List UInt8} (h : Continues rest after)
    (taken : List UInt8) : Continues (taken ++ rest) (taken ++ after) := by
  cases taken with
  | nil => exact h
  | cons b taken => exact .inl rfl

/-- After blanks and the same mark, anything may stand. -/
theorem continues_mark (blanks : List UInt8) (b : UInt8) (rest after : List UInt8) :
    Continues (blanks ++ b :: rest) (blanks ++ b :: after) :=
  (show Continues (b :: rest) (b :: after) from .inl rfl).append blanks

theorem Continues.forall_head {rest after : List UInt8} {P : UInt8 → Prop}
    (h : Continues rest after) (hrest : ∀ b ∈ rest.head?, P b)
    (hends : EndsNumeral after → ∀ b ∈ after.head?, P b) : ∀ b ∈ after.head?, P b := by
  rcases h with hsame | hafter
  · rwa [hsame]
  · exact hends hafter

/-- `deep` gives `a` from the bytes that stand in `text` before `rest`, whatever comes after. -/
def Takes (deep : Reading α) (text : List UInt8) (a : α) (rest : List UInt8) : Prop :=
  ∃ taken, text = taken ++ rest ∧
    ∀ after, Continues rest after → deep (taken ++ after) = .ok (a, after)

namespace Takes

variable {deep : Reading α} {text rest : List UInt8} {a : α}

theorem read (h : Takes deep text a rest) : deep text = .ok (a, rest) := by
  obtain ⟨taken, rfl, hdeep⟩ := h
  exact hdeep rest (.inl rfl)

/-- Nothing is taken. -/
theorem none (h : ∀ after, Continues rest after → deep after = .ok (a, after)) :
    Takes deep rest a rest :=
  ⟨[], rfl, h⟩

/-- What is read next goes on with the rest. -/
theorem bind {next : α × List UInt8 → Except Stop (β × List UInt8)} {middle : List UInt8} {b : β}
    (h : Takes deep text a middle) (hnext : Takes (fun text => next (a, text)) middle b rest) :
    Takes (fun text => deep text >>= next) text b rest := by
  obtain ⟨taken, rfl, hdeep⟩ := h
  obtain ⟨taken', rfl, hdeep'⟩ := hnext
  refine ⟨taken ++ taken', by rw [List.append_assoc], fun after hafter => ?_⟩
  simp only [List.append_assoc, hdeep _ (hafter.append taken')]
  exact hdeep' after hafter

/-- A first byte is taken. -/
theorem cons {b : UInt8} (h : Takes (fun inner => deep (b :: inner)) text a rest) :
    Takes deep (b :: text) a rest := by
  obtain ⟨taken, rfl, hdeep⟩ := h
  exact ⟨b :: taken, rfl, hdeep⟩

/-- Blanks and a mark are taken. -/
theorem mark {inner : List UInt8} {b : UInt8} (hmark : skipSpace text = b :: inner)
    (blanks : ∀ text, deep (skipSpace text) = deep text)
    (h : Takes (fun inner => deep (b :: inner)) inner a rest) : Takes deep text a rest := by
  obtain ⟨front, rfl, hfront⟩ := exists_blanks hmark
  obtain ⟨taken, rfl, hdeep⟩ := h
  refine ⟨front ++ b :: taken, by rw [List.append_assoc, List.cons_append], fun after hafter => ?_⟩
  rw [List.append_assoc, List.cons_append, ← blanks, hfront]
  exact hdeep after hafter

end Takes

/-- What `reading` gives, `deep` takes. -/
def Local (reading deep : Reading α) : Prop :=
  ∀ text a rest, reading text = .ok (a, rest) → Takes deep text a rest

/-! ## Words and escapes -/

theorem local_readWord (result : α) (word : List UInt8) :
    Local (readWord result word) (readWord result word) := by
  induction word with
  | nil =>
    intro text a rest h
    cases h
    exact .none fun _ _ => rfl
  | cons w word ih =>
    intro text a rest h
    cases text with
    | nil => cases h
    | cons b text =>
      refine .cons ?_
      simp only [readWord] at h ⊢
      split_ifs at h with hb
      simp only [if_pos hb]
      exact ih text a rest h

theorem local_readFourDigits : Local readFourDigits readFourDigits := by
  intro text n rest h
  unfold readFourDigits at h
  split at h
  · rename_i a b c d rest'
    split at h
    · rename_i ha hb hc hd
      cases h
      refine .cons (.cons (.cons (.cons (.none fun after _ => ?_))))
      simp only [readFourDigits, ha, hb, hc, hd]
    · cases h
  · cases h

theorem local_readSecondSurrogate (first : Nat) :
    Local (readSecondSurrogate first) (readSecondSurrogate first) := by
  intro text n rest h
  cases text with
  | nil => cases h
  | cons b text =>
    simp only [readSecondSurrogate] at h
    split_ifs at h with hslash
    cases text with
    | nil => cases h
    | cons u text =>
      simp only at h
      split_ifs at h with hu
      obtain ⟨⟨second, left⟩, hdigits, h⟩ := bind_eq_ok.mp h
      simp only at h
      split_ifs at h with hlow
      obtain ⟨rfl, rfl⟩ := Prod.mk.inj (Except.ok.inj h)
      refine .cons (.cons ?_)
      simp only [readSecondSurrogate, if_pos hslash, if_pos hu]
      refine (local_readFourDigits _ _ _ hdigits).bind ?_
      simp only [if_pos hlow]
      exact .none fun _ _ => rfl

theorem local_readCodePoint : Local readCodePoint readCodePoint := by
  intro text n rest h
  obtain ⟨⟨m, left⟩, hdigits, h⟩ := bind_eq_ok.mp h
  refine (local_readFourDigits _ _ _ hdigits).bind ?_
  simp only at h ⊢
  split_ifs at h ⊢ with hlow hhigh
  · exact local_readSecondSurrogate _ _ _ _ h
  · cases h
    exact .none fun _ _ => rfl

theorem local_readEscape : Local readEscape readEscape := by
  intro text bytes rest h
  cases text with
  | nil => cases h
  | cons b text =>
    refine .cons ?_
    simp only [readEscape] at h ⊢
    split_ifs at h ⊢ with hmark hb hf hn hr ht hu
    rotate_right
    · obtain ⟨⟨n, left⟩, hpoint, h⟩ := bind_eq_ok.mp h
      cases h
      exact (local_readCodePoint _ _ _ hpoint).bind (.none fun _ _ => rfl)
    -- every other letter stands for one byte
    all_goals
      cases h
      exact .none fun _ _ => rfl

/-! ## Strings -/

/-- The bytes of a string are taken with any fuel that is enough for them. -/
theorem takes_readStringBytes {fuel : Nat} {read text bytes rest : List UInt8}
    (h : readStringBytes fuel read text = .ok (bytes, rest)) :
    ∃ taken, text = taken ++ rest ∧ ∀ after fuel', Continues rest after → taken.length ≤ fuel' →
      readStringBytes fuel' read (taken ++ after) = .ok (bytes, after) := by
  induction fuel generalizing read text with
  | zero => cases text <;> cases h
  | succ fuel ih =>
    cases text with
    | nil => cases h
    | cons b text =>
      simp only [readStringBytes] at h
      split_ifs at h with hquote hslash hcontrol
      · cases h
        refine ⟨[b], rfl, fun after fuel' _ hfuel => ?_⟩
        obtain ⟨fuel', rfl⟩ : ∃ k, fuel' = k + 1 := ⟨fuel' - 1, by simp at hfuel; omega⟩
        simp only [List.cons_append, List.nil_append, readStringBytes, if_pos hquote]
      · obtain ⟨⟨escape, left⟩, hescape, hmore⟩ := bind_eq_ok.mp h
        obtain ⟨taken, hleft, htaken⟩ := ih hmore
        obtain rfl : left = taken ++ rest := hleft
        obtain ⟨front, rfl, hfront⟩ := local_readEscape _ _ _ hescape
        refine ⟨b :: (front ++ taken), by simp, fun after fuel' hafter hfuel => ?_⟩
        simp only [List.length_cons, List.length_append] at hfuel
        obtain ⟨fuel', rfl⟩ : ∃ k, fuel' = k + 1 := ⟨fuel' - 1, by omega⟩
        simp only [List.cons_append, List.append_assoc, readStringBytes, if_neg hquote,
          if_pos hslash, hfront _ (hafter.append taken)]
        exact htaken after fuel' hafter (by omega)
      · obtain ⟨taken, rfl, htaken⟩ := ih h
        refine ⟨b :: taken, rfl, fun after fuel' hafter hfuel => ?_⟩
        simp only [List.length_cons] at hfuel
        obtain ⟨fuel', rfl⟩ : ∃ k, fuel' = k + 1 := ⟨fuel' - 1, by omega⟩
        simp only [List.cons_append, readStringBytes, if_neg hquote, if_neg hslash,
          if_neg hcontrol]
        exact htaken after fuel' hafter (by omega)

theorem local_readString : Local readString readString := by
  intro text s rest h
  obtain ⟨⟨bytes, left⟩, hbytes, hdecoded⟩ := bind_eq_ok.mp h
  obtain ⟨taken, rfl, htaken⟩ := takes_readStringBytes hbytes
  simp only at hdecoded
  split at hdecoded
  · rename_i s' hdecode
    cases hdecoded
    refine ⟨taken, rfl, fun after hafter => ?_⟩
    refine bind_eq_ok.mpr ⟨_, htaken after _ hafter (by simp), ?_⟩
    simp only [hdecode]
  · cases hdecoded

/-! ## Numbers -/

/-- Digits end where no digit follows. -/
theorem digits_append {front after : List UInt8} (digits : ∀ b ∈ front, isDigitByte b = true)
    (ends : ∀ b ∈ after.head?, isDigitByte b = false) :
    digitsOf (front ++ after) = front.map (fun b => b.toNat - 0x30) ∧
      afterDigits (front ++ after) = after := by
  rw [digitsOf, afterDigits, (Text.run_append digits ends).1, (Text.run_append digits ends).2]
  exact ⟨rfl, rfl⟩

/-- What follows the digits starts with no digit. -/
theorem not_isDigitByte_head_afterDigits {text : List UInt8} :
    ∀ b ∈ (afterDigits text).head?, isDigitByte b = false := by
  intro b hb
  have hhead := List.head?_dropWhile_not isDigitByte text
  rw [show (text.dropWhile isDigitByte).head? = some b from hb] at hhead
  simpa using hhead

/-- Digits are taken from the first one on, and another reader goes on by what they say. -/
theorem takes_digits {deep inside : Reading α} {b : UInt8} {text rest : List UInt8} {a : α}
    (hb : isDigitByte b = true) (h : Takes inside (afterDigits (b :: text)) a rest)
    (heq : ∀ inner, digitsOf (b :: inner) = digitsOf (b :: text) →
      deep (b :: inner) = inside (afterDigits (b :: inner))) :
    Takes (fun inner => deep (b :: inner)) text a rest := by
  obtain ⟨taken, hafter, hinside⟩ := h
  have hfront : (b :: text).takeWhile isDigitByte = b :: text.takeWhile isDigitByte :=
    List.takeWhile_cons_of_pos hb
  have htext : text.takeWhile isDigitByte ++ afterDigits (b :: text) = text := by
    rw [afterDigits_cons hb]
    exact List.takeWhile_append_dropWhile
  refine ⟨text.takeWhile isDigitByte ++ taken, ?_, fun after hcontinues => ?_⟩
  · rw [List.append_assoc, ← hafter, htext]
  · have hnext : Continues (afterDigits (b :: text)) (taken ++ after) := by
      rw [hafter]
      exact hcontinues.append taken
    have hall : ∀ c ∈ (b :: text).takeWhile isDigitByte, isDigitByte c = true := fun c hc =>
      List.mem_takeWhile_imp hc
    obtain ⟨hdigits, hrest⟩ := digits_append hall
      (hnext.forall_head not_isDigitByte_head_afterDigits fun hends c hc => (hends c hc).1)
    rw [hfront, List.cons_append, ← hfront] at hdigits
    rw [hfront, List.cons_append] at hrest
    rw [List.append_assoc]
    refine (heq _ hdigits).trans ?_
    rw [hrest]
    exact hinside after hcontinues

/-- A floating point number does not depend on what comes after it. -/
theorem finishFloat_after {negative : Bool} {digits : Nat} {exponent : Int} {n : Number}
    {text rest : List UInt8} (h : finishFloat negative digits exponent text = .ok (n, rest))
    (after : List UInt8) : finishFloat negative digits exponent after = .ok (n, after) := by
  unfold finishFloat at h ⊢
  split at h
  · cases h
    rfl
  · cases h

theorem local_finishFloat (negative : Bool) (digits : Nat) (exponent : Int) :
    Local (finishFloat negative digits exponent) (finishFloat negative digits exponent) := by
  intro text n rest h
  obtain rfl := rest_of_finishFloat h
  exact .none fun after _ => finishFloat_after h after

theorem takes_readExponentDigits {negative down : Bool} {digits : Nat} {exponent : Int}
    {b : UInt8} {text rest : List UInt8} {n : Number}
    (h : readExponentDigits negative down digits exponent (b :: text) = .ok (n, rest)) :
    Takes (fun inner => readExponentDigits negative down digits exponent (b :: inner)) text n
      rest := by
  simp only [readExponentDigits] at h
  split at h
  · rename_i hdigit
    split at h
    · rename_i m hgather
      refine takes_digits hdigit (local_finishFloat _ _ _ _ _ _ h) fun inner hinner => ?_
      simp only [readExponentDigits, if_pos hdigit, hinner, hgather]
    · rename_i m d leftOver hgather
      split_ifs at h with hrange
      cases h
      have hzero : Takes (fun rest => .ok (signed negative 0, rest)) (afterDigits (b :: text))
        (signed negative 0) (afterDigits (b :: text)) := .none fun _ _ => rfl
      refine takes_digits hdigit hzero fun inner hinner => ?_
      simp only [readExponentDigits, if_pos hdigit, hinner, hgather, if_neg hrange]
  · cases h

theorem local_readExponent (negative : Bool) (digits : Nat) (exponent : Int) :
    Local (readExponent negative digits exponent) (readExponent negative digits exponent) := by
  intro text n rest h
  have hdigits (down : Bool) (text : List UInt8)
      (h : readExponentDigits negative down digits exponent text = .ok (n, rest)) :
      Takes (readExponentDigits negative down digits exponent) text n rest := by
    cases text with
    | nil => cases h
    | cons b text => exact .cons (takes_readExponentDigits h)
  cases text with
  | nil => cases h
  | cons b text =>
    refine .cons ?_
    simp only [readExponent] at h ⊢
    split_ifs at h ⊢
    · exact hdigits _ _ h
    · exact hdigits _ _ h
    · exact takes_readExponentDigits h

/-- Where a numeral ends, no part of another kind follows. -/
theorem readScale_of_head {negative : Bool} {digits : Nat} {exponent : Int} {text : List UInt8}
    (h : ∀ c ∈ text.head?, isExponentMark c = false) :
    readScale negative digits exponent text = finishFloat negative digits exponent text := by
  cases text with
  | nil => rfl
  | cons c text => simp only [readScale, h c rfl, Bool.false_eq_true, if_false]

theorem readAfterWhole_of_head {negative : Bool} {digits extra : Nat} {text : List UInt8}
    (h : ∀ c ∈ text.head?, c ≠ Text.byte '.' ∧ isExponentMark c = false) :
    readAfterWhole negative digits extra text =
      if extra = 0 then .ok (wholeOrFloat negative digits, text)
      else finishFloat negative digits extra text := by
  cases text with
  | nil => rfl
  | cons c text =>
    simp only [readAfterWhole, if_neg (h c rfl).1, (h c rfl).2, Bool.false_eq_true, if_false]

theorem readNumber_zero {negative : Bool} {text : List UInt8}
    (h : ∀ c ∈ text.head?, isDigitByte c = false) :
    readNumber negative (Text.byte '0' :: text) = readAfterWhole negative 0 0 text := by
  cases text with
  | nil => rfl
  | cons c text => simp only [readNumber, if_true, h c rfl, Bool.false_eq_true, if_false]

theorem local_readScale (negative : Bool) (digits : Nat) (exponent : Int) :
    Local (readScale negative digits exponent) (readScale negative digits exponent) := by
  intro text n rest h
  by_cases hhead : ∀ c ∈ text.head?, isExponentMark c = false
  · rw [readScale_of_head hhead] at h
    obtain rfl := rest_of_finishFloat h
    refine .none fun after hafter => ?_
    rw [readScale_of_head (hafter.forall_head hhead fun hends c hc => (hends c hc).2.2)]
    exact finishFloat_after h after
  · cases text with
    | nil => exact absurd (fun c hc => nomatch hc) hhead
    | cons b text =>
      have hmark : isExponentMark b = true := by simpa using hhead
      refine .cons ?_
      simp only [readScale, if_pos hmark] at h ⊢
      exact local_readExponent _ _ _ _ _ _ h

theorem local_readFraction (negative : Bool) (digits : Nat) (exponent : Int) :
    Local (readFraction negative digits exponent) (readFraction negative digits exponent) := by
  intro text n rest h
  cases text with
  | nil => cases h
  | cons b text =>
    simp only [readFraction] at h
    split_ifs at h with hdigit
    refine .cons (takes_digits hdigit (local_readScale _ _ _ _ _ _ h) fun inner hinner => ?_)
    simp only [readFraction, if_pos hdigit, hinner]

theorem local_readAfterWhole (negative : Bool) (digits extra : Nat) :
    Local (readAfterWhole negative digits extra) (readAfterWhole negative digits extra) := by
  intro text n rest h
  by_cases hhead : ∀ c ∈ text.head?, c ≠ Text.byte '.' ∧ isExponentMark c = false
  · rw [readAfterWhole_of_head hhead] at h
    have hafterHead {after : List UInt8} (hafter : Continues text after) :
        ∀ c ∈ after.head?, c ≠ Text.byte '.' ∧ isExponentMark c = false :=
      hafter.forall_head hhead fun hends c hc => (hends c hc).2
    split_ifs at h with hextra
    · cases h
      refine .none fun after hafter => ?_
      rw [readAfterWhole_of_head (hafterHead hafter), if_pos hextra]
    · obtain rfl := rest_of_finishFloat h
      refine .none fun after hafter => ?_
      rw [readAfterWhole_of_head (hafterHead hafter), if_neg hextra]
      exact finishFloat_after h after
  · cases text with
    | nil => exact absurd (fun c hc => nomatch hc) hhead
    | cons b text =>
      refine .cons ?_
      simp only [readAfterWhole] at h ⊢
      by_cases hpoint : b = Text.byte '.'
      · simp only [if_pos hpoint] at h ⊢
        exact local_readFraction _ _ _ _ _ _ h
      · have hmark : isExponentMark b = true := by simpa [hpoint] using hhead
        simp only [if_neg hpoint, if_pos hmark] at h ⊢
        exact local_readExponent _ _ _ _ _ _ h

theorem takes_readNumber {negative : Bool} {b : UInt8} {text rest : List UInt8} {n : Number}
    (h : readNumber negative (b :: text) = .ok (n, rest)) :
    Takes (fun inner => readNumber negative (b :: inner)) text n rest := by
  by_cases hzero : b = Text.byte '0'
  · subst hzero
    have hhead : ∀ c ∈ text.head?, isDigitByte c = false := by
      cases text with
      | nil => exact fun c hc => nomatch hc
      | cons d text =>
        intro c hc
        cases hc
        simp only [readNumber, if_true] at h
        split_ifs at h with hdigit
        simpa using hdigit
    rw [readNumber_zero hhead] at h
    obtain ⟨taken, rfl, hwhole⟩ := local_readAfterWhole _ _ _ _ _ _ h
    refine ⟨taken, rfl, fun after hafter => ?_⟩
    have hnext := (hafter.append taken).forall_head hhead fun hends c hc => (hends c hc).1
    exact (readNumber_zero hnext).trans (hwhole after hafter)
  · simp only [readNumber, if_neg hzero] at h
    split_ifs at h with hdigit
    refine takes_digits hdigit (local_readAfterWhole _ _ _ _ _ _ h) fun inner hinner => ?_
    simp only [readNumber, if_neg hzero, if_pos hdigit, hinner]

/-! ## Scalars -/

theorem takes_readScalar {b : UInt8} {text rest : List UInt8} {v : Value}
    (h : readScalar (b :: text) = .ok (v, rest)) :
    Takes (fun inner => readScalar (b :: inner)) text v rest := by
  simp only [readScalar] at h ⊢
  split_ifs at h ⊢
  · exact local_readWord _ _ _ _ _ h
  · exact local_readWord _ _ _ _ _ h
  · exact local_readWord _ _ _ _ _ h
  · obtain ⟨⟨s, left⟩, hread, h⟩ := bind_eq_ok.mp h
    cases h
    exact (local_readString _ _ _ hread).bind (.none fun _ _ => rfl)
  · obtain ⟨⟨n, left⟩, hread, h⟩ := bind_eq_ok.mp h
    cases h
    cases text with
    | nil => cases hread
    | cons d text =>
      exact (Takes.cons (takes_readNumber hread)).bind (.none fun _ _ => rfl)
  · obtain ⟨⟨n, left⟩, hread, h⟩ := bind_eq_ok.mp h
    cases h
    exact (takes_readNumber hread).bind (.none fun _ _ => rfl)

/-! ## Items -/

section Items

variable {item deep : Reading α}

/-- An item is the last one, or a comma and more items follow it. -/
theorem readItems_eq_ok {fuel : Nat} {read items : List α} {text rest : List UInt8} :
    readItems item (fuel + 1) read text = .ok (items, rest) ↔
      ∃ a left, item text = .ok (a, left) ∧
        (skipSpace left = Text.byte ']' :: rest ∧ items = (a :: read).reverse ∨
          ∃ tail b next, skipSpace left = Text.byte ',' :: tail ∧
            skipSpace tail = b :: next ∧ b ≠ Text.byte ']' ∧
            readItems item fuel (a :: read) (b :: next) = .ok (items, rest)) := by
  constructor
  · intro h
    obtain ⟨⟨a, left⟩, ha, hmore⟩ := bind_eq_ok.mp h
    refine ⟨a, left, ha, ?_⟩
    simp only at hmore
    split at hmore
    · cases hmore
    · rename_i b tail hmark
      split_ifs at hmore with hclose hcomma
      · cases hmore
        exact .inl ⟨by rw [hmark, hclose], rfl⟩
      · split at hmore
        · cases hmore
        · rename_i c next hnext
          split_ifs at hmore with hlast
          exact .inr ⟨tail, c, next, by rw [hmark, hcomma], hnext, hlast, hmore⟩
  · rintro ⟨a, left, ha, ⟨hmark, rfl⟩ | ⟨tail, b, next, hmark, hnext, hlast, hmore⟩⟩
    · refine bind_eq_ok.mpr ⟨_, ha, ?_⟩
      simp only [hmark, if_true]
    · refine bind_eq_ok.mpr ⟨_, ha, ?_⟩
      simp only [hmark, if_neg (show Text.byte ',' ≠ Text.byte ']' by decide), if_true, hnext,
        if_neg hlast]
      exact hmore

/-- The items of an array are taken with any fuel that is enough for their bytes. -/
theorem takes_readItems (items_local : Local item deep) {fuel : Nat} {read items : List α}
    {text rest : List UInt8} (h : readItems item fuel read text = .ok (items, rest)) :
    ∃ taken, taken ≠ [] ∧ text = taken ++ rest ∧ ∀ after fuel', Continues rest after →
      taken.length ≤ fuel' → readItems deep fuel' read (taken ++ after) = .ok (items, after) := by
  induction fuel generalizing read text with
  | zero => cases h
  | succ fuel ih =>
    obtain ⟨a, left, ha, ⟨hmark, rfl⟩ | ⟨tail, b, next, hmark, hnext, hlast, hmore⟩⟩ :=
      readItems_eq_ok.mp h
    · obtain ⟨front, rfl, hfront⟩ := items_local _ _ _ ha
      obtain ⟨blanks, rfl, hblanks⟩ := exists_blanks hmark
      refine ⟨front ++ (blanks ++ [Text.byte ']']), by simp, by simp, fun after fuel' _ hfuel => ?_⟩
      simp only [List.length_append, List.length_cons] at hfuel
      obtain ⟨fuel', rfl⟩ : ∃ k, fuel' = k + 1 := ⟨fuel' - 1, by omega⟩
      simp only [List.append_assoc, List.cons_append, List.nil_append]
      exact readItems_eq_ok.mpr
        ⟨a, _, hfront _ (continues_mark blanks _ _ after), .inl ⟨hblanks after, rfl⟩⟩
    · obtain ⟨taken, hne, htext, htaken⟩ := ih hmore
      obtain ⟨c, taken, rfl⟩ := List.exists_cons_of_ne_nil hne
      obtain ⟨rfl, rfl⟩ := List.cons.inj htext
      obtain ⟨front, rfl, hfront⟩ := items_local _ _ _ ha
      obtain ⟨blanks, rfl, hblanks⟩ := exists_blanks hmark
      obtain ⟨blanks', rfl, hblanks'⟩ := exists_blanks hnext
      refine ⟨front ++ (blanks ++ Text.byte ',' :: (blanks' ++ b :: taken)), by simp, by simp,
        fun after fuel' hafter hfuel => ?_⟩
      simp only [List.length_append, List.length_cons] at hfuel
      obtain ⟨fuel', rfl⟩ : ∃ k, fuel' = k + 1 := ⟨fuel' - 1, by omega⟩
      simp only [List.append_assoc, List.cons_append]
      refine readItems_eq_ok.mpr ⟨a, _, hfront _ (continues_mark blanks _ _ _),
        .inr ⟨_, b, _, hblanks _, hblanks' _, hlast, htaken after fuel' hafter ?_⟩⟩
      simp only [List.length_cons]
      omega

theorem readArray_eq_ok {items : List α} {text rest : List UInt8} :
    readArray item text = .ok (items, rest) ↔
      skipSpace text = Text.byte ']' :: rest ∧ items = [] ∨
        ∃ b inner, skipSpace text = b :: inner ∧ b ≠ Text.byte ']' ∧
          readItems item (inner.length + 1) [] (b :: inner) = .ok (items, rest) := by
  unfold readArray
  constructor
  · intro h
    split at h
    · cases h
    · rename_i b inner hmark
      split_ifs at h with hclose
      · cases h
        exact .inl ⟨by rw [hmark, hclose], rfl⟩
      · exact .inr ⟨b, inner, hmark, hclose, h⟩
  · rintro (⟨hmark, rfl⟩ | ⟨b, inner, hmark, hclose, h⟩)
    · simp only [hmark, if_true]
    · simp only [hmark, if_neg hclose]
      exact h

theorem local_readArray (items_local : Local item deep) :
    Local (readArray item) (readArray deep) := by
  intro text items rest h
  have hblanks (text : List UInt8) : readArray deep (skipSpace text) = readArray deep text := by
    simp only [readArray, skipSpace_skipSpace]
  rcases readArray_eq_ok.mp h with ⟨hmark, rfl⟩ | ⟨b, inner, hmark, hclose, hitems⟩
  · exact .mark hmark hblanks (.none fun _ _ => rfl)
  · obtain ⟨taken, hne, htext, htaken⟩ := takes_readItems items_local hitems
    obtain ⟨c, taken, rfl⟩ := List.exists_cons_of_ne_nil hne
    obtain ⟨rfl, rfl⟩ := List.cons.inj htext
    have hspace := not_isSpaceByte_of_skipSpace hmark
    refine .mark hmark hblanks ⟨taken, rfl, fun after hafter => ?_⟩
    exact readArray_eq_ok.mpr
      (.inr ⟨b, _, skipSpace_cons hspace _, hclose, htaken after _ hafter (by simp)⟩)

/-! ## Members -/

theorem local_readColon : Local readColon readColon := by
  intro text u rest h
  have hblanks (text : List UInt8) : readColon (skipSpace text) = readColon text := by
    simp only [readColon, skipSpace_skipSpace]
  unfold readColon at h
  split at h
  · cases h
  · rename_i b inner hmark
    refine .mark hmark hblanks ?_
    simp only [readColon, skipSpace_cons (not_isSpaceByte_of_skipSpace hmark)]
    split_ifs at h ⊢
    cases h
    exact .none fun _ _ => rfl

theorem local_readMember (items_local : Local item deep) :
    Local (readMember item) (readMember deep) := by
  intro text member rest h
  obtain ⟨⟨name, named⟩, hname, h⟩ := bind_eq_ok.mp h
  obtain ⟨⟨_, valued⟩, hcolon, h⟩ := bind_eq_ok.mp h
  obtain ⟨⟨value, left⟩, hvalue, h⟩ := bind_eq_ok.mp h
  cases h
  refine (local_readString _ _ _ hname).bind ((local_readColon _ _ _ hcolon).bind ?_)
  exact (items_local _ _ _ hvalue).bind (.none fun _ _ => rfl)

/-- A member is the last one, or a comma and more members follow it. -/
theorem readMembers_eq_ok {fuel : Nat} {read members : List (String × α)}
    {text rest : List UInt8} :
    readMembers item (fuel + 1) read text = .ok (members, rest) ↔
      ∃ member left, readMember item text = .ok (member, left) ∧
        (skipSpace left = Text.byte closeBrace :: rest ∧ members = (member :: read).reverse ∨
          ∃ tail next, skipSpace left = Text.byte ',' :: tail ∧
            skipSpace tail = Text.byte '"' :: next ∧
            readMembers item fuel (member :: read) next = .ok (members, rest)) := by
  constructor
  · intro h
    obtain ⟨⟨member, left⟩, hmember, hmore⟩ := bind_eq_ok.mp h
    refine ⟨member, left, hmember, ?_⟩
    simp only at hmore
    split at hmore
    · cases hmore
    · rename_i b tail hmark
      split_ifs at hmore with hclose hcomma
      · cases hmore
        exact .inl ⟨by rw [hmark, hclose], rfl⟩
      · split at hmore
        · cases hmore
        · rename_i c next hnext
          split_ifs at hmore with hquote
          exact .inr ⟨tail, next, by rw [hmark, hcomma], by rw [hnext, hquote], hmore⟩
  · rintro ⟨member, left, hmember, ⟨hmark, rfl⟩ | ⟨tail, next, hmark, hnext, hmore⟩⟩
    · refine bind_eq_ok.mpr ⟨_, hmember, ?_⟩
      simp only [hmark, if_true]
    · refine bind_eq_ok.mpr ⟨_, hmember, ?_⟩
      have hclose : Text.byte ',' ≠ Text.byte closeBrace := by decide
      simp only [hmark, if_neg hclose, if_true, hnext]
      exact hmore

/-- The members of an object are taken with any fuel that is enough for their bytes. -/
theorem takes_readMembers (items_local : Local item deep) {fuel : Nat}
    {read members : List (String × α)} {text rest : List UInt8}
    (h : readMembers item fuel read text = .ok (members, rest)) :
    ∃ taken, text = taken ++ rest ∧ ∀ after fuel', Continues rest after →
      taken.length ≤ fuel' →
        readMembers deep fuel' read (taken ++ after) = .ok (members, after) := by
  induction fuel generalizing read text with
  | zero => cases h
  | succ fuel ih =>
    obtain ⟨member, left, hmember, hmore⟩ := readMembers_eq_ok.mp h
    obtain ⟨front, rfl, hfront⟩ := local_readMember items_local _ _ _ hmember
    rcases hmore with ⟨hmark, rfl⟩ | ⟨tail, next, hmark, hnext, hmore⟩
    · obtain ⟨blanks, rfl, hblanks⟩ := exists_blanks hmark
      refine ⟨front ++ (blanks ++ [Text.byte closeBrace]), by simp,
        fun after fuel' _ hfuel => ?_⟩
      simp only [List.length_append, List.length_cons] at hfuel
      obtain ⟨fuel', rfl⟩ : ∃ k, fuel' = k + 1 := ⟨fuel' - 1, by omega⟩
      simp only [List.append_assoc, List.cons_append, List.nil_append]
      exact readMembers_eq_ok.mpr
        ⟨member, _, hfront _ (continues_mark blanks _ _ after), .inl ⟨hblanks after, rfl⟩⟩
    · obtain ⟨blanks, rfl, hblanks⟩ := exists_blanks hmark
      obtain ⟨blanks', rfl, hblanks'⟩ := exists_blanks hnext
      obtain ⟨taken, rfl, htaken⟩ := ih hmore
      refine ⟨front ++ (blanks ++ Text.byte ',' :: (blanks' ++ Text.byte '"' :: taken)), by simp,
        fun after fuel' hafter hfuel => ?_⟩
      simp only [List.length_append, List.length_cons] at hfuel
      obtain ⟨fuel', rfl⟩ : ∃ k, fuel' = k + 1 := ⟨fuel' - 1, by omega⟩
      simp only [List.append_assoc, List.cons_append]
      exact readMembers_eq_ok.mpr ⟨member, _, hfront _ (continues_mark blanks _ _ _),
        .inr ⟨_, _, hblanks _, hblanks' _, htaken after fuel' hafter (by omega)⟩⟩

theorem local_readObject (items_local : Local item deep) :
    Local (readObject item) (readObject deep) := by
  intro text members rest h
  have hblanks (text : List UInt8) : readObject deep (skipSpace text) = readObject deep text := by
    simp only [readObject, skipSpace_skipSpace]
  unfold readObject at h
  split at h
  · cases h
  · rename_i b inner hmark
    refine .mark hmark hblanks ?_
    simp only [readObject, skipSpace_cons (not_isSpaceByte_of_skipSpace hmark)]
    split_ifs at h ⊢
    · cases h
      exact .none fun _ _ => rfl
    · obtain ⟨taken, rfl, htaken⟩ := takes_readMembers items_local h
      exact ⟨taken, rfl, fun after hafter => htaken after _ hafter (by simp; omega)⟩

end Items

/-! ## Values -/

theorem readNested_skipSpace (arranged : List (String × Value) → Members) (depth : Nat)
    (text : List UInt8) :
    readNested arranged depth (skipSpace text) = readNested arranged depth text := by
  cases depth with
  | zero => simp only [readNested, readWith, skipSpace_skipSpace]
  | succ depth => simp only [readNested, readWith, skipSpace_skipSpace]

/-- A scalar is taken with any depth. -/
theorem takes_readNested_of_scalar {arranged : List (String × Value) → Members} {depth : Nat}
    {text inner rest : List UInt8} {b : UInt8} {v : Value} (hmark : skipSpace text = b :: inner)
    (array : b ≠ Text.byte '[') (object : b ≠ Text.byte openBrace)
    (h : readScalar (b :: inner) = .ok (v, rest)) :
    Takes (readNested arranged depth) text v rest := by
  have hspace := not_isSpaceByte_of_skipSpace hmark
  refine .mark hmark (readNested_skipSpace arranged depth) ?_
  simp only [readNested_of_scalar (skipSpace_cons hspace _) array object]
  exact takes_readScalar h

/-- A value is taken with any depth that is no less than the one it is read with. -/
theorem local_readNested (arranged : List (String × Value) → Members) {depth depth' : Nat}
    (deeper : depth ≤ depth') : Local (readNested arranged depth) (readNested arranged depth') := by
  induction depth generalizing depth' with
  | zero =>
    intro text v rest h
    unfold readNested readWith at h
    split at h
    · cases h
    · rename_i b inner hmark
      split_ifs at h with array object
      exact takes_readNested_of_scalar hmark array object h
  | succ depth ih =>
    intro text v rest h
    obtain ⟨depth', rfl⟩ : ∃ k, depth' = k + 1 := ⟨depth' - 1, by omega⟩
    have inside := ih (Nat.le_of_succ_le_succ deeper)
    unfold readNested readWith at h
    split at h
    · cases h
    · rename_i b inner hmark
      have hspace := not_isSpaceByte_of_skipSpace hmark
      split_ifs at h with array object
      · obtain ⟨⟨items, left⟩, hitems, h⟩ := bind_eq_ok.mp h
        cases h
        refine .mark hmark (readNested_skipSpace arranged _) ?_
        simp only [readNested, readWith, skipSpace_cons hspace, if_pos array]
        exact (local_readArray inside _ _ _ hitems).bind (.none fun _ _ => rfl)
      · obtain ⟨⟨members, left⟩, hmembers, h⟩ := bind_eq_ok.mp h
        cases h
        refine .mark hmark (readNested_skipSpace arranged _) ?_
        simp only [readNested, readWith, skipSpace_cons hspace, if_neg array, if_pos object]
        exact (local_readObject inside _ _ _ hmembers).bind (.none fun _ _ => rfl)
      · exact takes_readNested_of_scalar hmark array object h

end TableGateway.Json
