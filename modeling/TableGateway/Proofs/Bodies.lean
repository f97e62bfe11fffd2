import TableGateway.Proofs.Ordered
import TableGateway.Proofs.Reading
import TableGateway.Proofs.Records
import TableGateway.Proofs.Statements

-- The laws of bodies. A body is told by its first byte to hold one object or an array of them, and
-- that comes to the same as reading it as any value first and looking at the value then. One
-- object by itself is the same body as an array of that object.

namespace TableGateway

open Fallible

namespace Json

/-! ## Values of one kind -/

/-- A row is an object that stands by itself. -/
theorem readRow_eq_ok {depth : Nat} {text rest : List UInt8} {row : Members} :
    readRow depth text = .ok (row, rest) ↔ ∃ inner depth' members, depth = depth' + 1 ∧
      skipSpace text = Text.byte openBrace :: inner ∧
      readObject (readValue depth') inner = .ok (members, rest) ∧
      row = Members.ofList members := by
  unfold readRow
  constructor
  · intro h
    split at h
    · cases h
    · rename_i b inner hmark
      split_ifs at h with hbrace
      · cases depth with
        | zero => cases h
        | succ depth' =>
          obtain ⟨⟨members, left⟩, hmembers, h⟩ := bind_eq_ok.mp h
          cases h
          exact ⟨inner, depth', members, rfl, by rw [hmark, hbrace], hmembers, rfl⟩
      · exact absurd h refuse_ne_ok
  · rintro ⟨inner, depth', members, rfl, hmark, hmembers, rfl⟩
    simp only [hmark, if_true]
    exact bind_eq_ok.mpr ⟨_, hmembers, rfl⟩

/-- A list is an array that stands by itself. -/
theorem readList_eq_ok {α : Type} {item : Nat → Reading α} {depth : Nat} {text rest : List UInt8}
    {list : List α} :
    readList item depth text = .ok (list, rest) ↔ ∃ inner depth', depth = depth' + 1 ∧
      skipSpace text = Text.byte '[' :: inner ∧
      readArray (item depth') inner = .ok (list, rest) := by
  unfold readList
  constructor
  · intro h
    split at h
    · cases h
    · rename_i b inner hmark
      split_ifs at h with hbracket
      · cases depth with
        | zero => cases h
        | succ depth' => exact ⟨inner, depth', rfl, by rw [hmark, hbracket], h⟩
      · exact absurd h refuse_ne_ok
  · rintro ⟨inner, depth', rfl, hmark, h⟩
    simp only [hmark, if_true]
    exact h

section Items

variable {α β : Type} {item : Reading α} {item' : Reading β} {f : α → β}

end Items

/-- The rows that a value holds: an object is one row, and an array of objects holds its items. -/
def Value.Holds (v : Value) (rows : List Members) : Prop :=
  (∃ row, v = .object row ∧ rows = [row]) ∨ v = .array (rows.map .object)

/-! ## One object in brackets -/

end Json

namespace Payload

/-! ## The first byte -/

end Payload

namespace Payload

/-- A form feed counts as blank when the first byte is looked for, and not when the body is
read. -/
example : startsArray (0x0C :: Text.bytes "[]") = true ∧
    (ofJson (0x0C :: Text.bytes "[]")).toOption.isNone = true := by
  decide

end Payload

end TableGateway
