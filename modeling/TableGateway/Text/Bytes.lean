-- A text as bytes. Texts are written in UTF-8, and names are ordered by
-- those bytes, so that a name comes before every longer name it begins.

namespace TableGateway.Text

/-! ## The bytes of a text -/

/-- The UTF-8 bytes of a text, in order. -/
def bytes (s : String) : List UInt8 :=
  s.toList.flatMap String.utf8EncodeChar

/-- The byte of a character below U+0100. -/
def byte (c : Char) : UInt8 :=
  UInt8.ofNat c.toNat

/-! ## The order of names -/

/-- One text comes before another when its bytes do. -/
def Precedes (s t : String) : Prop :=
  bytes s < bytes t

instance (s t : String) : Decidable (Precedes s t) :=
  inferInstanceAs (Decidable (bytes s < bytes t))

/-- Puts a text into an ordered list that holds each text once. -/
def insertOnce (s : String) : List String → List String
  | [] => [s]
  | t :: rest =>
    if s = t then t :: rest
    else if Precedes s t then s :: t :: rest
    else t :: insertOnce s rest

/-- The texts of a list, each once, in order. -/
def inOrder (texts : List String) : List String :=
  texts.foldr insertOnce []

theorem mem_insertOnce {x s : String} {texts : List String} :
    x ∈ insertOnce s texts ↔ x = s ∨ x ∈ texts := by
  induction texts with
  | nil => simp [insertOnce]
  | cons t rest ih =>
    by_cases h : s = t
    · subst h; simp [insertOnce]
    · by_cases hp : Precedes s t
      · simp [insertOnce, h, hp]
      · simp only [insertOnce, if_neg h, if_neg hp, List.mem_cons, ih]
        exact or_left_comm

/-- Ordering a list loses no text and adds none. -/
theorem mem_inOrder {x : String} {texts : List String} : x ∈ inOrder texts ↔ x ∈ texts := by
  induction texts with
  | nil => simp [inOrder]
  | cons t rest ih =>
    have : inOrder (t :: rest) = insertOnce t (inOrder rest) := rfl
    rw [this, mem_insertOnce, ih, List.mem_cons]

end TableGateway.Text
