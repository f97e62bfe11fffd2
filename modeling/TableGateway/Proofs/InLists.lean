import TableGateway.Proofs.FilterGrammar
import TableGateway.Proofs.Written

-- The law of lists in filters. Values that are written between the parentheses of an `in` filter
-- are the values that the filter binds, whatever marks stand in their strings.

namespace TableGateway

namespace Json

/-- The compact texts of values with commas between are the items of an array. -/
theorem joined_texts (values : List Value) :
    (Text.joined "," (values.map Value.text)).toList = itemsChars values := by
  induction values with
  | nil => rfl
  | cons v values ih =>
    cases values with
    | nil => rw [itemsChars, List.map_singleton, Text.joined, Value.text, String.toList_ofList]
    | cons w values =>
      rw [List.map_cons, List.map_cons, Text.joined, ← List.map_cons, String.toList_append,
        String.toList_append, ih, Value.text, String.toList_ofList, List.append_assoc, itemsChars]
      rfl

theorem bytes_brackets (values : List Value) :
    Text.bytes ("[" ++ Text.joined "," (values.map Value.text) ++ "]") =
      Text.byte '[' :: (encoded (itemsChars values) ++ [Text.byte ']']) := by
  change encoded _ = _
  rw [String.toList_append, String.toList_append, joined_texts, encoded_append, encoded_append]
  rfl

theorem itemsNesting_le {values : List Value} {depth : Nat} :
    itemsNesting values ≤ depth ↔ ∀ v ∈ values, v.nesting ≤ depth := by
  induction values with
  | nil => simp [itemsNesting]
  | cons v values ih => rw [itemsNesting, Nat.max_le, ih, List.forall_mem_cons]

/-- The items of an array are read back from its text, where the brackets of the items leave room
for those of the array. -/
theorem readValues_brackets {values : List Value} (exact : ∀ v ∈ values, v.IsExact) :
    ((∀ v ∈ values, v.nesting < maxDepth) →
      readValues (Text.bytes ("[" ++ Text.joined "," (values.map Value.text) ++ "]")) =
        .ok values) ∧
    ((∃ v ∈ values, maxDepth ≤ v.nesting) → ∃ e,
      readValues (Text.bytes ("[" ++ Text.joined "," (values.map Value.text) ++ "]")) =
        .error e ∧ e.cause = .nestedTooDeep) := by
  have hread := returns_readArray exact (fun v hv => (exact v hv).readsBack 126) []
  have hlist (text : List UInt8) :
      readList readValue maxDepth (Text.byte '[' :: text) = readArray (readValue 126) text := rfl
  rw [bytes_brackets, readValues]
  constructor
  · intro hroom
    refine readAll_eq_ok.mpr ⟨[], ?_, rfl⟩
    rw [hlist]
    exact hread.1 (itemsNesting_le.mpr fun v hv => Nat.le_of_lt_succ (hroom v hv))
  · rintro ⟨v, hv, hdeep⟩
    have hnone : ¬ itemsNesting values ≤ 126 := fun hle =>
      absurd (itemsNesting_le.mp hle v hv) (by unfold maxDepth at hdeep; omega)
    obtain ⟨left, hleft⟩ := hread.2 hnone
    exact ⟨_, readAll_of_stop ((hlist _).trans hleft), rfl⟩

end Json

namespace Filter

/-- A filter for the values of a list: their compact texts with commas between, in parentheses. -/
def listOf (values : List Json.Value) : String :=
  "in.(" ++ Text.joined "," (values.map Json.Value.text) ++ ")"

theorem listOf_eq (values : List Json.Value) :
    listOf values = "in." ++ ("(" ++ Text.joined "," (values.map Json.Value.text) ++ ")") := by
  rw [listOf, ← String.append_assoc, ← String.append_assoc]
  rfl

/-- The parentheses of a list are taken off, and those of its strings stay. -/
theorem lists_parentheses {inner : String} {read : Except Json.ReadError (List Json.Value)}
    (h : Json.readValues (Text.bytes ("[" ++ inner ++ "]")) = read) :
    Lists ("(" ++ inner ++ ")") read :=
  ⟨inner, ⟨['('], [')'], by simp, .inl rfl, .inl rfl⟩, h⟩

/-- A list of values is read back from its filter: the clause has a place for each value and
binds the values in their order, whatever parentheses, commas, brackets, quotes or backslashes
stand in their strings. Only brackets that nest too deep, the one around the list counted, are
refused. -/
theorem a_list_is_read_back (column : String) {values : List Json.Value} (some_value : values ≠ [])
    (exact : ∀ v ∈ values, v.IsExact) :
    ((∀ v ∈ values, v.nesting < Json.maxDepth) →
      parse column (listOf values) = .ok (some
        ⟨column ++ " IN (" ++ Text.joined "," (values.map fun _ => "?") ++ ")", values⟩)) ∧
    ((∃ v ∈ values, Json.maxDepth ≤ v.nesting) →
      ∃ e, parse column (listOf values) = .error (.decode e) ∧ e.cause = .nestedTooDeep) := by
  obtain ⟨hroom, hdeep⟩ := Json.readValues_brackets exact
  rw [listOf_eq]
  constructor
  · intro h
    refine parse_eq_ok_some_iff_isFilter.mpr ⟨"in", _, rfl, by decide, ?_, ?_⟩
    · simp [← String.toList_inj]
    · exact .lists (lists_parentheses (hroom h)) some_value
  · intro h
    obtain ⟨e, hread, hcause⟩ := hdeep h
    exact ⟨e, parse_eq_decode.mpr ⟨_, rfl, lists_parentheses hread⟩, hcause⟩

/-- Marks of filters and of JSON in strings, and values inside of values. -/
theorem a_list_with_marks_is_read_back :
    parse "c" "in.(\")(,.[\\\"\\\\é\",-9223372036854775808,[null,\x7b\"]\":true\x7d])" = .ok (some
      ⟨"c IN (?,?,?)", [.string ")(,.[\"\\é", .number (.whole (-9223372036854775808)),
        .array [.null, .object [("]", .bool true)]]]⟩) := by
  have hexact : ∀ v ∈ [Json.Value.string ")(,.[\"\\é", .number (.whole (-9223372036854775808)),
      .array [.null, .object [("]", .bool true)]]], v.IsExact := by
    simp only [List.forall_mem_cons]
    refine ⟨.string _, .whole (by decide) (by decide), .array ?_, fun _ h => nomatch h⟩
    simp only [List.forall_mem_cons]
    refine ⟨.null, .object (List.pairwise_singleton _ _) ?_, fun _ h => nomatch h⟩
    simp only [List.forall_mem_cons]
    exact ⟨.bool true, fun _ h => nomatch h⟩
  exact (a_list_is_read_back "c" (List.cons_ne_nil _ _) hexact).1 (by decide)

end Filter

end TableGateway
