import TableGateway.Proofs.Cutting
import TableGateway.Proofs.Fallible
import TableGateway.Statement.Conflict

-- The laws of conflicts. The columns of a conflict go into a statement as they
-- are, and so a statement has none that is not a plain name.

namespace TableGateway.Conflict

open Fallible

/-! ## Plain names -/

/-- A plain name holds letters, digits and underscores only. -/
theorem isNameChar_of_isPlainName {name : String} (h : isPlainName name = true) {c : Char}
    (hc : c ∈ name.toList) : isNameChar c = true := by
  unfold isPlainName at h
  split at h
  · cases h
  · rename_i d rest hname
    obtain ⟨hstart, hrest⟩ := Bool.and_eq_true_iff.mp h
    rw [hname] at hc
    rcases List.mem_cons.mp hc with rfl | hc
    · unfold isNameStart at hstart
      unfold isNameChar Char.isAlphanum
      rcases Bool.or_eq_true_iff.mp hstart with h | h <;> simp [h]
    · exact List.all_eq_true.mp hrest c hc

theorem checkName_eq_ok {known : Option (List String)} {name : String} {u : Unit} :
    checkName known name = .ok u ↔
      isPlainName name = true ∧ ∀ columns, known = some columns → name ∈ columns := by
  unfold checkName
  cases hplain : isPlainName name with
  | false => simp
  | true =>
    cases known with
    | none => simp
    | some columns => by_cases hmem : name ∈ columns <;> simp [hmem]

/-! ## Columns and the end of an insert -/

/-- The columns that a request names for a conflict. -/
def names (request : Request) : List String :=
  ((request.params.given? conflictKey).map (Text.pieces ',')).getD []

theorem columns_eq_ok {request : Request} {known : Option (List String)} {columns : List String} :
    Conflict.columns request known = .ok columns ↔
      columns = names request ∧ ∀ name ∈ columns, checkName known name = .ok () := by
  unfold Conflict.columns names
  cases request.params.given? conflictKey with
  | none =>
    simp only [Option.map_none, Option.getD_none]
    constructor
    · intro h
      cases h
      exact ⟨rfl, fun _ hmem => absurd hmem List.not_mem_nil⟩
    · rintro ⟨rfl, _⟩
      rfl
  | some raw =>
    simp only [Option.map_some, Option.getD_some, map_eq_ok, forM_eq_ok]
    constructor
    · rintro ⟨_, hcheck, rfl⟩
      exact ⟨rfl, hcheck⟩
    · rintro ⟨rfl, hcheck⟩
      exact ⟨(), hcheck, rfl⟩

/-- An insert ends in nothing where nothing is wished, and else in the columns of the conflict
and what happens then. -/
theorem suffix_eq_ok {request : Request} {known : Option (List String)} {resolution : Resolution}
    {payloadColumns : List String} {text : String} :
    suffix request known resolution payloadColumns = .ok text ↔
      (action? resolution payloadColumns = none ∧ text = "") ∨
      ∃ action columns, action? resolution payloadColumns = some action ∧
        Conflict.columns request known = .ok columns ∧
        text = " on conflict" ++ target columns ++ action := by
  unfold suffix
  cases action? resolution payloadColumns with
  | none => simp [eq_comm]
  | some action =>
    rw [map_eq_ok]
    constructor
    · rintro ⟨columns, hcolumns, rfl⟩
      exact .inr ⟨action, columns, rfl, hcolumns, rfl⟩
    · rintro (⟨hnone, _⟩ | ⟨_, columns, heq, hcolumns, rfl⟩)
      · cases hnone
      · cases heq
        exact ⟨columns, hcolumns, rfl⟩

/-! ## No places -/

theorem place_not_mem_target {columns : List String} (h : ∀ c ∈ columns, isPlainName c = true) :
    '?' ∉ (target columns).toList := by
  have hcolumn : ∀ c ∈ columns, '?' ∉ c.toList := fun c hc hmem =>
    absurd (isNameChar_of_isPlainName (h c hc) hmem) (by decide)
  unfold target
  split
  · decide
  · have hlist : '?' ∉ (Text.joined ", " columns).toList := Text.not_mem_joined (by decide) hcolumn
    exact Text.not_mem_append (Text.not_mem_append (by decide) hlist) (by decide)

theorem place_not_mem_action {resolution : Resolution} {payloadColumns : List String}
    {action : String} (h : action? resolution payloadColumns = some action)
    (free : ∀ c ∈ payloadColumns, '?' ∉ c.toList) : '?' ∉ action.toList := by
  cases resolution with
  | none => cases h
  | ignoreDuplicates =>
    cases h
    decide
  | mergeDuplicates =>
    cases h
    refine Text.not_mem_append (by decide) (Text.not_mem_joined (by decide) ?_)
    intro text htext
    obtain ⟨c, hc, rfl⟩ := List.mem_map.mp htext
    exact Text.not_mem_append (Text.not_mem_append (free c hc) (by decide)) (free c hc)

/-- The end of an insert holds a place only where a column of the payload does. -/
theorem place_not_mem_suffix {request : Request} {known : Option (List String)}
    {resolution : Resolution} {payloadColumns : List String} {text : String}
    (h : suffix request known resolution payloadColumns = .ok text)
    (free : ∀ c ∈ payloadColumns, '?' ∉ c.toList) : '?' ∉ text.toList := by
  rcases suffix_eq_ok.mp h with ⟨_, rfl⟩ | ⟨action, columns, haction, hcolumns, rfl⟩
  · decide
  · obtain ⟨_, hcheck⟩ := columns_eq_ok.mp hcolumns
    have htarget : '?' ∉ (target columns).toList :=
      place_not_mem_target fun c hc => (checkName_eq_ok.mp (hcheck c hc)).1
    exact Text.not_mem_append (Text.not_mem_append (by decide) htarget)
      (place_not_mem_action haction free)

end TableGateway.Conflict
