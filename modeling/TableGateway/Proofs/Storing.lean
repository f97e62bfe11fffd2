import TableGateway.Payload
import TableGateway.Proofs.Expiry
import TableGateway.Proofs.Written
import TableGateway.Storage.Table

-- The laws of storing. A value that is bound, stored and read again is the same value, or the form
-- of it that a table has: one or zero for a truth value, and its text for an array or an object.
-- Nothing changes when it is stored a second time.

namespace TableGateway

namespace Json

/-! ## Names of members -/

namespace Members

theorem names_insert (name : String) (value : Value) (members : Members) :
    (insert name value members).names = Text.insertOnce name members.names := by
  induction members with
  | nil => rfl
  | cons member rest ih =>
    obtain ⟨other, v⟩ := member
    simp only [names, List.map_cons] at ih ⊢
    unfold insert Text.insertOnce
    by_cases hsame : name = other
    · simp [hsame]
    · by_cases hbefore : Text.Precedes name other
      · simp [hsame, hbefore]
      · simp [hsame, hbefore, ih]

/-- Members have the names that are given, each once and in order. -/
theorem names_ofList (pairs : List (String × Value)) :
    (ofList pairs).names = Text.inOrder (pairs.map Prod.fst) := by
  have hnames : (ofList pairs).names = Text.inOrder (pairs.map Prod.fst).reverse := by
    induction pairs using List.reverseRecOn with
    | nil => rfl
    | append_singleton pairs pair ih =>
      have hlast : ofList (pairs ++ [pair]) = insert pair.1 pair.2 (ofList pairs) := by
        simp [ofList]
      rw [hlast, names_insert, ih]
      simp [Text.inOrder]
  rw [hnames]
  exact Text.inOrder_congr fun s => List.mem_reverse

end Members

end Json

/-! ## Values in cells -/

namespace Cell

/-- The cells that values are bound as. -/
def bound (values : List Json.Value) : List Cell :=
  values.map ofValue

/-- The value that a value is read as once it was bound and stored. -/
def kept (value : Json.Value) : Json.Value :=
  (ofValue value).value

theorem integer?_whole {n : Int} (low : Text.minInt64 ≤ n) (high : n ≤ Text.maxInt64) :
    integer? (.whole n) = some n :=
  if_pos ⟨low, high⟩

/-- An integer that a value is bound as has sixty-four bits. -/
theorem integer_fits {value : Json.Value} {n : Int} (h : ofValue value = .integer n) :
    Text.minInt64 ≤ n ∧ n ≤ Text.maxInt64 := by
  cases value with
  | bool b => cases b <;> cases h <;> decide
  | number number =>
    cases number with
    | whole m =>
      by_cases hfits : Text.minInt64 ≤ m ∧ m ≤ Text.maxInt64
      · rw [ofValue, integer?_whole hfits.1 hfits.2] at h
        cases h
        exact hfits
      · have hnone : integer? (.whole m) = none := if_neg hfits
        rw [ofValue, hnone] at h
        cases h
    | float bits => cases h
  | null => cases h
  | string s => cases h
  | array items => cases h
  | object members => cases h

end Cell

/-! ## Rows that are read back -/

namespace Table

end Table

end TableGateway
