import TableGateway.Text.Pieces

-- The laws of cutting and joining. Pieces hold nothing that the text did not
-- hold, and a joined text holds what its parts hold and what stands between them.

namespace TableGateway.Text

/-! ## Pieces -/

theorem split_cons (cut : Char → Bool) (c : Char) (rest : List Char) :
    split cut (c :: rest) =
      if cut c then [] :: split cut rest else (split cut rest).modifyHead (List.cons c) := by
  rw [split]
  split
  · rfl
  · cases hpieces : split cut rest with
    | nil => exact absurd hpieces (split_ne_nil cut rest)
    | cons piece pieces => rfl

/-- The pieces of a text are those that the library cuts. -/
theorem split_eq_splitOnP (cut : Char → Bool) (cs : List Char) :
    split cut cs = cs.splitOnP cut := by
  induction cs with
  | nil => rfl
  | cons c rest ih => rw [split_cons, List.splitOnP_cons_eq_if_modifyHead, ih]

/-- All pieces together hold the characters that are not cut at. -/
theorem flatten_split (cut : Char → Bool) (cs : List Char) :
    (split cut cs).flatten = cs.filter fun c => !cut c := by
  induction cs with
  | nil => rfl
  | cons c rest ih =>
    obtain ⟨piece, pieces, hpieces⟩ := List.exists_cons_of_ne_nil (split_ne_nil cut rest)
    rw [split_cons, List.filter_cons, ← ih]
    cases hc : cut c with
    | true => simp
    | false => simp [hpieces]

theorem length_split (cut : Char → Bool) (cs : List Char) :
    (split cut cs).length = cs.countP cut + 1 := by
  induction cs with
  | nil => rfl
  | cons c rest ih =>
    rw [split_cons, List.countP_cons]
    cases hc : cut c with
    | true => simp [ih]
    | false => simp [ih]

theorem mem_of_mem_split {cut : Char → Bool} {cs piece : List Char} {c : Char}
    (h : piece ∈ split cut cs) (hc : c ∈ piece) : c ∈ cs ∧ cut c = false := by
  have hmem : c ∈ (split cut cs).flatten := List.mem_flatten.mpr ⟨piece, h, hc⟩
  rw [flatten_split] at hmem
  simpa using hmem

/-- The characters of a piece are characters of the text. -/
theorem mem_of_mem_pieces {mark c : Char} {s piece : String} (h : piece ∈ pieces mark s)
    (hc : c ∈ piece.toList) : c ∈ s.toList := by
  obtain ⟨cs, hcs, rfl⟩ := List.mem_map.mp h
  rw [String.toList_ofList] at hc
  exact (mem_of_mem_split hcs hc).1

/-- A text has one piece more than it has marks. -/
theorem length_pieces (mark : Char) (s : String) :
    (pieces mark s).length = s.toList.count mark + 1 := by
  rw [pieces, piecesBy, List.length_map, length_split, List.count]

theorem pieces_eq_splitOn (mark : Char) (s : String) :
    pieces mark s = (s.toList.splitOn mark).map String.ofList := by
  rw [pieces, piecesBy, split_eq_splitOnP, List.splitOn_eq_splitOnP]

/-- A text without the mark is one piece. -/
theorem pieces_of_unmarked {mark : Char} {s : String} (h : mark ∉ s.toList) :
    pieces mark s = [s] := by
  rw [pieces_eq_splitOn, List.splitOn_eq_singleton h, List.map_singleton, String.ofList_toList]

/-- What stands before the first mark is the first piece. -/
theorem pieces_of_marked (mark : Char) {s : String} (before after : String)
    (h : s.toList = before.toList ++ mark :: after.toList) (hbefore : mark ∉ before.toList) :
    pieces mark s = before :: pieces mark after := by
  rw [pieces_eq_splitOn, h, List.splitOn_append_cons_self_of_not_mem hbefore, List.map_cons,
    String.ofList_toList, pieces_eq_splitOn]

/-! ## Cuts -/

theorem cutChars_append {mark : Char} {before : List Char} (h : mark ∉ before)
    (after : List Char) : cutChars mark (before ++ mark :: after) = some (before, after) := by
  induction before with
  | nil => simp [cutChars]
  | cons c rest ih =>
    obtain ⟨hc, hrest⟩ := not_or.mp (mt List.mem_cons.mpr h)
    simp [cutChars, Ne.symm hc, ih hrest]

/-- A text is cut at its first mark. -/
theorem cutAt_eq_some {mark : Char} {s before after : String} :
    cutAt mark s = some (before, after) ↔
      s.toList = before.toList ++ mark :: after.toList ∧ mark ∉ before.toList := by
  unfold cutAt
  constructor
  · intro h
    obtain ⟨parts, hparts, heq⟩ := Option.map_eq_some_iff.mp h
    cases heq
    simpa using eq_of_cutChars hparts
  · rintro ⟨hs, hmark⟩
    rw [hs, cutChars_append hmark]
    simp

theorem eq_of_cutAt {mark : Char} {s before after : String}
    (h : cutAt mark s = some (before, after)) :
    s = before ++ String.singleton mark ++ after ∧ mark ∉ before.toList := by
  obtain ⟨hlist, hfree⟩ := cutAt_eq_some.mp h
  exact ⟨String.toList_inj.mp (by simp [hlist]), hfree⟩

/-- A text is cut at its last mark. -/
theorem cutAtLast_eq_some {mark : Char} {s before after : String} :
    cutAtLast mark s = some (before, after) ↔
      s.toList = before.toList ++ mark :: after.toList ∧ mark ∉ after.toList := by
  unfold cutAtLast
  constructor
  · intro h
    obtain ⟨⟨back, front⟩, hparts, heq⟩ := Option.map_eq_some_iff.mp h
    cases heq
    obtain ⟨hreverse, hmark⟩ := eq_of_cutChars hparts
    have hs := congrArg List.reverse hreverse
    simp only [List.reverse_reverse] at hs
    simp [hs, hmark]
  · rintro ⟨hs, hmark⟩
    have hreverse : s.toList.reverse = after.toList.reverse ++ mark :: before.toList.reverse := by
      simp [hs]
    rw [hreverse, cutChars_append (by simpa using hmark)]
    simp

/-- Two texts with marks are one text up to the first mark and one after it. -/
theorem eq_of_marked (mark : Char) {s t : String} {rest rest' : List Char}
    (hs : mark ∉ s.toList) (ht : mark ∉ t.toList)
    (h : s.toList ++ mark :: rest = t.toList ++ mark :: rest') : s = t ∧ rest = rest' := by
  have hcut := (cutChars_append hs rest).symm.trans (h ▸ cutChars_append ht rest')
  obtain ⟨hlists, hrest⟩ := Prod.mk.inj (Option.some.inj hcut)
  exact ⟨String.toList_inj.mp hlists, hrest⟩

/-! ## Joined texts -/

theorem joined_eq_intercalate (between : String) (texts : List String) :
    joined between texts = between.intercalate texts := by
  induction texts with
  | nil => rw [joined, String.intercalate_nil]
  | cons s rest ih =>
    cases rest with
    | nil => rw [joined, String.intercalate_singleton]
    | cons t rest => rw [joined, ih, String.intercalate_cons_cons]

theorem not_mem_append {s t : String} {c : Char} (hs : c ∉ s.toList) (ht : c ∉ t.toList) :
    c ∉ (s ++ t).toList := by
  rw [String.toList_append, List.mem_append, not_or]
  exact ⟨hs, ht⟩

theorem mem_of_mem_joined {between : String} {texts : List String} {c : Char}
    (h : c ∈ (joined between texts).toList) : c ∈ between.toList ∨ ∃ s ∈ texts, c ∈ s.toList := by
  induction texts with
  | nil => simp [joined] at h
  | cons s rest ih =>
    cases rest with
    | nil => exact .inr ⟨s, List.mem_singleton_self s, h⟩
    | cons t rest =>
      simp only [joined, String.toList_append, List.mem_append] at h
      rcases h with (h | h) | h
      · exact .inr ⟨s, List.mem_cons_self, h⟩
      · exact .inl h
      · rcases ih h with h | ⟨u, hu, h⟩
        · exact .inl h
        · exact .inr ⟨u, List.mem_cons_of_mem s hu, h⟩

theorem not_mem_joined {between : String} {texts : List String} {c : Char}
    (hbetween : c ∉ between.toList) (h : ∀ s ∈ texts, c ∉ s.toList) :
    c ∉ (joined between texts).toList := by
  intro hc
  rcases mem_of_mem_joined hc with hc | ⟨s, hs, hc⟩
  · exact hbetween hc
  · exact h s hs hc

/-- A text that is joined with commas is joined from one list of names without a comma. -/
theorem joined_inj {names names' : List String}
    (h : joined ", " names = joined ", " names') (hne : names ≠ []) (hne' : names' ≠ [])
    (free : ∀ s ∈ names, ',' ∉ s.toList) (free' : ∀ s ∈ names', ',' ∉ s.toList) :
    names = names' := by
  induction names generalizing names' with
  | nil => exact absurd rfl hne
  | cons s rest ih =>
    cases names' with
    | nil => exact absurd rfl hne'
    | cons t rest' =>
      obtain ⟨hs, hrest⟩ := List.forall_mem_cons.mp free
      obtain ⟨ht, hrest'⟩ := List.forall_mem_cons.mp free'
      cases rest with
      | nil =>
        cases rest' with
        | nil => exact congrArg (fun u => [u]) h
        | cons t' rest' =>
          have hlist : s = t ++ ", " ++ joined ", " (t' :: rest') := h
          exact absurd (by simp [hlist]) hs
      | cons s' rest =>
        cases rest' with
        | nil =>
          have hlist : s ++ ", " ++ joined ", " (s' :: rest) = t := h
          exact absurd (by simp [← hlist]) ht
        | cons t' rest' =>
          have hlist : s ++ ", " ++ joined ", " (s' :: rest) =
            t ++ ", " ++ joined ", " (t' :: rest') := h
          obtain ⟨rfl, _⟩ := eq_of_marked ',' hs ht
            (by simpa using congrArg String.toList hlist)
          rw [ih ((String.append_right_inj _).mp hlist) (by simp) (by simp) hrest hrest']

/-! ## Parts of a text -/

/-- A text that is cut at each of its marks: the parts hold no mark, and with marks between
them they make up the text. -/
structure IsCutInto (mark : Char) (s : String) (parts : List String) : Prop where
  some_part : parts ≠ []
  unmarked : ∀ part ∈ parts, mark ∉ part.toList
  whole : joined (String.singleton mark) parts = s

/-- There is one way to cut a text at its marks: the parts are its pieces. -/
theorem isCutInto_iff {mark : Char} {s : String} {parts : List String} :
    IsCutInto mark s parts ↔ pieces mark s = parts := by
  have hwhole : ∀ parts : List String, (joined (String.singleton mark) parts).toList =
      [mark].intercalate (parts.map String.toList) := fun parts => by
    rw [joined_eq_intercalate, String.toList_intercalate, String.toList_singleton]
  constructor
  · rintro ⟨some_part, unmarked, rfl⟩
    have hparts : ([mark].intercalate (parts.map String.toList)).splitOn mark =
        parts.map String.toList :=
      List.splitOn_intercalate mark (by simpa using unmarked) (by simpa using some_part)
    rw [pieces_eq_splitOn, hwhole, hparts]
    simp
  · rintro rfl
    refine ⟨?_, fun part hpart hmark => ?_, String.toList_inj.mp ?_⟩
    · rw [pieces_eq_splitOn]
      exact mt List.map_eq_nil_iff.mp (List.splitOn_ne_nil mark s.toList)
    · obtain ⟨cs, hcs, rfl⟩ := List.mem_map.mp hpart
      rw [String.toList_ofList] at hmark
      simpa using (mem_of_mem_split hcs hmark).2
    · have hid : String.toList ∘ String.ofList = id := funext fun cs => String.toList_ofList
      rw [hwhole, pieces_eq_splitOn, List.map_map, hid, List.map_id, List.intercalate_splitOn]

/-! ## Where a run ends -/

/-- A run ends where something else follows. -/
theorem run_append {α : Type} {p : α → Bool} {run rest : List α} (all : ∀ a ∈ run, p a = true)
    (ends : ∀ a ∈ rest.head?, p a = false) :
    (run ++ rest).takeWhile p = run ∧ (run ++ rest).dropWhile p = rest := by
  have hnone : rest.takeWhile p = [] ∧ rest.dropWhile p = rest := by
    cases rest with
    | nil => exact ⟨rfl, rfl⟩
    | cons a rest =>
      have ha := ends a rfl
      exact ⟨List.takeWhile_cons_of_neg (by simp [ha]), List.dropWhile_cons_of_neg (by simp [ha])⟩
  rw [List.takeWhile_append_of_pos all, List.dropWhile_append_of_pos all, hnone.1, hnone.2]
  exact ⟨List.append_nil run, rfl⟩

end TableGateway.Text
