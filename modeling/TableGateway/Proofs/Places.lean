import TableGateway.Proofs.Cutting
import TableGateway.Statement.Basic

-- Places and values. The first place of a statement takes the first value, the
-- second place the second one, and so on to the last. A statement whose texts are
-- put together from filled parts is filled in the same way as its parts.

namespace TableGateway

/-! ## Filling -/

namespace Statement

/-- The characters with each place filled by its value. There are none unless there are as many
values as places. -/
def fill (shown : Json.Value → String) : List Char → List Json.Value → Option (List Char)
  | [], [] => some []
  | [], _ :: _ => none
  | c :: cs, values =>
    if c = '?' then
      match values with
      | [] => none
      | value :: rest => (fill shown cs rest).map ((shown value).toList ++ ·)
    else (fill shown cs values).map (c :: ·)

/-- The statement with each place filled by its value. -/
def filled (shown : Json.Value → String) (statement : Statement) : Option String :=
  (fill shown statement.text.toList statement.values).map String.ofList

end Statement

/-- The values fill the places of a text, which then reads as the result. -/
def Fills (shown : Json.Value → String) (text : String) (values : List Json.Value)
    (result : String) : Prop :=
  Statement.fill shown text.toList values = some result.toList

namespace Statement

variable {shown : Json.Value → String}

theorem fill_append {cs ds r t : List Char} {values others : List Json.Value}
    (h : fill shown cs values = some r) (h' : fill shown ds others = some t) :
    fill shown (cs ++ ds) (values ++ others) = some (r ++ t) := by
  -- A place takes the first value with it, so the values left over fit the characters left over.
  induction cs generalizing values r with
  | nil =>
    cases values with
    | nil =>
      obtain rfl : [] = r := by simpa [fill] using h
      exact h'
    | cons value rest => simp [fill] at h
  | cons c cs ih =>
    by_cases hc : c = '?'
    · cases values with
      | nil => simp [fill, hc] at h
      | cons value rest =>
        simp only [fill, hc, if_true, Option.map_eq_some_iff] at h
        obtain ⟨u, hu, rfl⟩ := h
        simp [fill, hc, ih hu]
    · simp only [fill, hc, if_false, Option.map_eq_some_iff] at h
      obtain ⟨u, hu, rfl⟩ := h
      simp [fill, hc, ih hu]

theorem fill_of_not_mem {cs : List Char} (h : '?' ∉ cs) : fill shown cs [] = some cs := by
  induction cs with
  | nil => rfl
  | cons c cs ih =>
    obtain ⟨hc, hcs⟩ := not_or.mp (mt List.mem_cons.mpr h)
    simp [fill, Ne.symm hc, ih hcs]

/-- Only as many values as places fill a text. -/
theorem count_of_fill {cs r : List Char} {values : List Json.Value}
    (h : fill shown cs values = some r) : cs.count '?' = values.length := by
  induction cs generalizing values r with
  | nil =>
    cases values with
    | nil => rfl
    | cons value rest => simp [fill] at h
  | cons c cs ih =>
    by_cases hc : c = '?'
    · cases values with
      | nil => simp [fill, hc] at h
      | cons value rest =>
        simp only [fill, hc, if_true, Option.map_eq_some_iff] at h
        obtain ⟨u, hu, _⟩ := h
        simp [hc, ih hu]
    · simp only [fill, hc, if_false, Option.map_eq_some_iff] at h
      obtain ⟨u, hu, _⟩ := h
      simp [hc, ih hu]

end Statement

/-! ## Parts of texts -/

namespace Fills

variable {shown : Json.Value → String}

/-- A text without a place takes no value. -/
theorem plain {s : String} (h : '?' ∉ s.toList) : Fills shown s [] s :=
  Statement.fill_of_not_mem h

theorem place (value : Json.Value) : Fills shown "?" [value] (shown value) := by
  simp [Fills, Statement.fill]

theorem append {s t r u : String} {values others : List Json.Value} (h : Fills shown s values r)
    (h' : Fills shown t others u) : Fills shown (s ++ t) (values ++ others) (r ++ u) := by
  unfold Fills
  rw [String.toList_append, String.toList_append]
  exact Statement.fill_append h h'

/-- A text without a place in front changes nothing. -/
theorem after {s t u : String} {values : List Json.Value} (h : '?' ∉ s.toList)
    (h' : Fills shown t values u) : Fills shown (s ++ t) values (s ++ u) :=
  (plain h).append h'

/-- Nor does one at the end. -/
theorem before {s t r : String} {values : List Json.Value} (h : Fills shown s values r)
    (h' : '?' ∉ t.toList) : Fills shown (s ++ t) values (r ++ t) := by
  rw [← List.append_nil values]
  exact h.append (plain h')

/-- A joined text is filled part by part. -/
theorem joined {α : Type} {between : String} {items : List α} {text result : α → String}
    {values : α → List Json.Value} (hbetween : '?' ∉ between.toList)
    (h : ∀ item ∈ items, Fills shown (text item) (values item) (result item)) :
    Fills shown (Text.joined between (items.map text)) (items.flatMap values)
      (Text.joined between (items.map result)) := by
  induction items with
  | nil => exact plain List.not_mem_nil
  | cons item rest ih =>
    obtain ⟨hitem, hrest⟩ := List.forall_mem_cons.mp h
    cases rest with
    | nil => simpa [Text.joined] using hitem
    | cons next rest => exact (hitem.before hbetween).append (ih hrest)

/-- As many places as values, with a comma between them or more. -/
theorem joined_places {α : Type} {between : String} (hbetween : '?' ∉ between.toList)
    (items : List α) (value : α → Json.Value) :
    Fills shown (Text.joined between (List.replicate items.length "?")) (items.map value)
      (Text.joined between (items.map fun item => shown (value item))) := by
  rw [← List.map_const', List.map_eq_flatMap (l := items) (f := value)]
  exact joined hbetween fun item _ => place (value item)

theorem count_eq {s r : String} {values : List Json.Value} (h : Fills shown s values r) :
    s.toList.count '?' = values.length :=
  Statement.count_of_fill h

theorem filled_eq {statement : Statement} {r : String}
    (h : Fills shown statement.text statement.values r) : statement.filled shown = some r := by
  unfold Statement.filled
  rw [h, Option.map_some, String.ofList_toList]

end Fills

end TableGateway
