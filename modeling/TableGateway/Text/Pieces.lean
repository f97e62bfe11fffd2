-- Cutting texts at single characters and joining them again.

namespace TableGateway.Text

/-! ## Cutting -/

/-- The pieces between the characters that `cut` picks. There is always one
piece more than there are cuts. -/
def split (cut : Char → Bool) : List Char → List (List Char)
  | [] => [[]]
  | c :: rest =>
    if cut c then [] :: split cut rest
    else
      match split cut rest with
      | [] => [[c]]
      | piece :: pieces => (c :: piece) :: pieces

/-- The pieces of a text between the characters that `cut` picks. -/
def piecesBy (cut : Char → Bool) (s : String) : List String :=
  (split cut s.toList).map String.ofList

/-- The pieces of a text between its marks. -/
def pieces (mark : Char) (s : String) : List String :=
  piecesBy (· == mark) s

/-- The characters before the first mark and those after it. -/
def cutChars (mark : Char) : List Char → Option (List Char × List Char)
  | [] => none
  | c :: rest =>
    if c = mark then some ([], rest)
    else (cutChars mark rest).map fun parts => (c :: parts.1, parts.2)

/-- The text before the first mark and the text after it. -/
def cutAt (mark : Char) (s : String) : Option (String × String) :=
  (cutChars mark s.toList).map fun parts => (String.ofList parts.1, String.ofList parts.2)

/-- The text before the last mark and the text after it. -/
def cutAtLast (mark : Char) (s : String) : Option (String × String) :=
  (cutChars mark s.toList.reverse).map fun parts =>
    (String.ofList parts.2.reverse, String.ofList parts.1.reverse)

/-! ## Joining -/

/-- The texts one after another, with `between` between neighbours. -/
def joined (between : String) : List String → String
  | [] => ""
  | [s] => s
  | s :: t :: rest => s ++ between ++ joined between (t :: rest)

/-! ## Letters -/

/-- The text with `A` to `Z` in lower case. -/
def lower (s : String) : String :=
  String.ofList (s.toList.map Char.toLower)

/-- Two texts that differ at most in the case of ASCII letters. -/
def sameLetters (s t : String) : Bool :=
  lower s == lower t

/-! ## Laws -/

theorem split_ne_nil (cut : Char → Bool) (cs : List Char) : split cut cs ≠ [] := by
  cases cs with
  | nil => simp [split]
  | cons c rest =>
    simp only [split]
    split
    · simp
    · split <;> simp

/-- A cut gives back the text: what is before the mark, the mark, and the rest. -/
theorem eq_of_cutChars {mark : Char} {cs before after : List Char}
    (h : cutChars mark cs = some (before, after)) :
    cs = before ++ mark :: after ∧ mark ∉ before := by
  induction cs generalizing before with
  | nil => simp [cutChars] at h
  | cons c rest ih =>
    by_cases hc : c = mark
    · simp [cutChars, hc] at h
      obtain ⟨rfl, rfl⟩ := h
      simp [hc]
    · simp only [cutChars, if_neg hc, Option.map_eq_some_iff] at h
      obtain ⟨⟨b, a⟩, hba, heq⟩ := h
      simp only [Prod.mk.injEq] at heq
      obtain ⟨rfl, rfl⟩ := heq
      obtain ⟨hrest, hmem⟩ := ih hba
      exact ⟨by simp [hrest], by simp [hmem, Ne.symm hc]⟩

/-- There is no cut exactly where there is no mark. -/
theorem cutChars_eq_none_iff {mark : Char} {cs : List Char} :
    cutChars mark cs = none ↔ mark ∉ cs := by
  induction cs with
  | nil => simp [cutChars]
  | cons c rest ih =>
    by_cases hc : c = mark
    · simp [cutChars, hc]
    · simp [cutChars, hc, ih, Ne.symm hc]

end TableGateway.Text
