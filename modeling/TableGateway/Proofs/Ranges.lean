import TableGateway.Proofs.Pages

-- The laws of ranges. A page that a request asks for begins at a row that there may be and
-- ends within sixty-four bits, so that it can be written and read again without a change.

namespace TableGateway

open Fallible

namespace Page

/-! ## Content ranges -/

/-- A well-formed content range: the numbers of the first and of the last row, as many rows
apart as the limit says, or the number of the first row alone, and the total behind. -/
inductive IsContentRange (limit : Int) (total : String) : String → Prop
  | endless (start : Nat) : IsContentRange limit total (start.repr ++ "-/" ++ total)
  | closed (start stop : Nat) : start ≤ stop → (stop : Int) - start + 1 = limit →
      IsContentRange limit total (start.repr ++ "-" ++ stop.repr ++ "/" ++ total)

theorem isContentRange_of_fits {page : Page} (h : page.Fits) (some_row : page.limit ≠ 0)
    (total : String) : IsContentRange page.limit total (page.rangeText total) := by
  obtain ⟨start, hstart⟩ := Int.eq_ofNat_of_zero_le h.offset_nonneg
  unfold rangeText
  split
  · rw [hstart, numeral_natCast]
    have htext : IsContentRange page.limit total (start.repr ++ "-/" ++ total) := .endless start
    simpa [String.append_assoc] using htext
  · rename_i hbounded
    obtain ⟨hlimit, _⟩ := h.limit_nonneg hbounded
    have hoffset := h.offset_nonneg
    have hend : 0 ≤ page.offset + page.limit - 1 := by omega
    obtain ⟨stop, hstop⟩ := Int.eq_ofNat_of_zero_le hend
    rw [hstop, hstart, numeral_natCast, numeral_natCast]
    exact .closed start stop (by omega) (by omega)

/-- The range of a page without rows would end before it begins. -/
theorem not_isContentRange {page : Page} (h : page.Fits) (no_row : page.limit = 0)
    (total : String) : ¬ IsContentRange page.limit total (page.rangeText total) := by
  have hlist : (page.rangeText total).toList = (numeral page.offset).toList ++
      '-' :: ((numeral (page.offset - 1)).toList ++ '/' :: total.toList) := by
    simp [rangeText, no_row]
  have hfirst := hyphen_not_mem_numeral h.offset_nonneg
  have hlast : '/' ∉ (numeral (page.offset - 1)).toList :=
    not_mem_numeral (by decide) (by decide) _
  generalize page.rangeText total = text at hlist
  intro hrange
  cases hrange with
  | endless start =>
    have hcut : start.repr.toList ++ '-' :: ("".toList ++ '/' :: total.toList) =
        (numeral page.offset).toList ++
          '-' :: ((numeral (page.offset - 1)).toList ++ '/' :: total.toList) := by
      simpa using hlist
    obtain ⟨_, hrest⟩ := Text.eq_of_marked '-' (hyphen_not_mem_repr start) hfirst hcut
    obtain ⟨hempty, _⟩ := Text.eq_of_marked '/' (by decide) hlast hrest
    exact numeral_ne_empty _ hempty.symm
  | closed start stop horder hcount =>
    have hcut : start.repr.toList ++ '-' :: (stop.repr.toList ++ '/' :: total.toList) =
        (numeral page.offset).toList ++
          '-' :: ((numeral (page.offset - 1)).toList ++ '/' :: total.toList) := by
      simpa using hlist
    obtain ⟨hstart, hrest⟩ := Text.eq_of_marked '-' (hyphen_not_mem_repr start) hfirst hcut
    obtain ⟨hstop, _⟩ := Text.eq_of_marked '/' (slash_not_mem_repr stop) hlast hrest
    have hfrom := eq_of_repr_eq_numeral hstart
    have hto := eq_of_repr_eq_numeral hstop
    omega

/-- A content range is well formed exactly when the page that it tells has a row. A request with
a limit of zero is answered with a range that ends before it begins. -/
theorem a_content_range_is_well_formed_where_there_is_a_row (request : Request)
    (total text : String) (told : contentRangeOf? request total = some text) :
    ∃ page, ofRequest request = .ok (some page) ∧
      (IsContentRange page.limit total text ↔ page.limit ≠ 0) := by
  unfold contentRangeOf? at told
  split at told
  · rename_i page hpage
    cases told
    have hfits := fits_of_request hpage
    refine ⟨page, hpage, ?_⟩
    rw [hfits.contentRange_eq]
    exact ⟨fun hrange hnone => not_isContentRange hfits hnone total hrange,
      fun hrow => isContentRange_of_fits hfits hrow total⟩
  · cases told

/-- A limit of three from the last row but three of all that there may be. -/
theorem the_last_rows_are_well_formed :
    let request : Request :=
      { params := ⟨[("limit", "3"), ("offset", "9223372036854775804")]⟩ }
    contentRangeOf? request "*" = some "9223372036854775804-9223372036854775806/*" ∧
      IsContentRange 3 "*" "9223372036854775804-9223372036854775806/*" := by
  intro request
  have told : contentRangeOf? request "*" = some "9223372036854775804-9223372036854775806/*" := by
    decide +kernel
  have paged : ofRequest request = .ok (some ⟨3, 9223372036854775804⟩) := by decide +kernel
  obtain ⟨page, hpage, hrange⟩ :=
    a_content_range_is_well_formed_where_there_is_a_row request "*" _ told
  cases hpage.symm.trans paged
  exact ⟨told, hrange.mpr (by decide)⟩

/-- The range of no rows at all is not well formed. -/
theorem a_page_of_no_rows_ends_before_it_begins :
    ¬ ∀ (request : Request) (total text : String), contentRangeOf? request total = some text →
      ∃ page, ofRequest request = .ok (some page) ∧ IsContentRange page.limit total text := by
  intro always
  let request : Request := { params := ⟨[("limit", "0")]⟩ }
  have told : contentRangeOf? request "3" = some "0--1/3" := by decide +kernel
  have paged : ofRequest request = .ok (some ⟨0, 0⟩) := by decide +kernel
  obtain ⟨page, hpage, hrange⟩ := always request "3" "0--1/3" told
  cases hpage.symm.trans paged
  exact not_isContentRange (fits_of_request paged) rfl "3" hrange

/-! ## Rows of a page -/

/-- A page holds the row of a number, counted from zero. -/
def Holds (page : Page) (row : Int) : Prop :=
  page.offset ≤ row ∧ (page.limit < 0 ∨ row ≤ page.offset + page.limit - 1)

instance (page : Page) (row : Int) : Decidable (page.Holds row) :=
  inferInstanceAs (Decidable (_ ∧ _))

/-- What a database reads in the part of a statement for a page. Without an offset no row is
left out. -/
def ofSql? (text : String) : Option Page :=
  match Text.pieces ' ' text with
  | ["limit", limit] => (Text.int64? limit).map fun limit => ⟨limit, 0⟩
  | ["limit", limit, "offset", offset] => do some ⟨← Text.int64? limit, ← Text.int64? offset⟩
  | _ => none

/-- The rows that a database gives for a page: it leaves out as many as the offset says and then
takes as many as the limit says, or all where the limit is negative. -/
def taken {α : Type} (page : Page) (rows : List α) : List α :=
  let rest := rows.drop page.offset.toNat
  if page.limit < 0 then rest else rest.take page.limit.toNat

/-- The words of the part of a statement for a page. -/
theorem words_of_sql (page : Page) :
    Text.pieces ' ' page.sql =
      if page.offset = 0 then ["limit", numeral page.limit]
      else ["limit", numeral page.limit, "offset", numeral page.offset] := by
  have hsolid := not_mem_numeral (c := ' ') (by decide) (by decide)
  unfold sql
  split
  · rw [Text.pieces_of_marked ' ' "limit" (numeral page.limit) (by simp) (by decide),
      Text.pieces_of_unmarked (hsolid _)]
  · rw [Text.pieces_of_marked ' ' "limit" (numeral page.limit ++ " offset " ++ numeral page.offset)
        (by simp) (by decide),
      Text.pieces_of_marked ' ' (numeral page.limit) ("offset " ++ numeral page.offset) (by simp)
        (hsolid _),
      Text.pieces_of_marked ' ' "offset" (numeral page.offset) (by simp) (by decide),
      Text.pieces_of_unmarked (hsolid _)]

/-- A page that fits is written so that a database reads the same page. -/
theorem ofSql?_sql {page : Page} (h : page.Fits) : ofSql? page.sql = some page := by
  have hlimit : Text.int64? (numeral page.limit) = some page.limit :=
    int64?_numeral (Int.le_trans (by decide) h.limit_ge) h.limit_le
  have hoffset : Text.int64? (numeral page.offset) = some page.offset :=
    int64?_numeral (Int.le_trans (by decide) h.offset_nonneg) h.offset_le
  unfold ofSql?
  rw [words_of_sql]
  by_cases hzero : page.offset = 0
  · rw [if_pos hzero]
    simp only [hlimit, Option.map_some]
    rw [← hzero]
  · rw [if_neg hzero]
    simp [hlimit, hoffset]

section Rows

variable {α : Type}

/-- Of rows that are counted from `start`, those with numbers from `first` on are what is left
without the rows before. -/
theorem rows_from (rows : List α) (start first : Nat) :
    ((rows.zipIdx start).filter fun row => first ≤ row.2) =
      (rows.drop (first - start)).zipIdx (max first start) := by
  induction rows generalizing start with
  | nil => simp
  | cons row rest ih =>
    rw [List.zipIdx_cons]
    by_cases h : first ≤ start
    · rw [List.filter_cons_of_pos (by simpa using h), ih, Nat.sub_eq_zero_of_le h,
        Nat.sub_eq_zero_of_le (by omega), Nat.max_eq_right h, Nat.max_eq_right (by omega)]
      rfl
    · rw [List.filter_cons_of_neg (by simpa using h), ih,
        show first - start = first - (start + 1) + 1 by omega, List.drop_succ_cons,
        Nat.max_eq_left (by omega), Nat.max_eq_left (by omega)]

/-- Of rows that are counted from `start`, the first ones are those with numbers below a bound. -/
theorem rows_before (rows : List α) (start stop : Nat) :
    ((rows.zipIdx start).filter fun row => row.2 < stop).map Prod.fst =
      rows.take (stop - start) := by
  induction rows generalizing start with
  | nil => simp
  | cons row rest ih =>
    rw [List.zipIdx_cons]
    by_cases h : start < stop
    · rw [List.filter_cons_of_pos (by simpa using h), List.map_cons, ih,
        show stop - start = stop - (start + 1) + 1 by omega, List.take_succ_cons]
    · rw [List.filter_cons_of_neg (by simpa using h), ih, Nat.sub_eq_zero_of_le (by omega),
        Nat.sub_eq_zero_of_le (by omega)]
      simp

/-- The rows that a database gives for a page are those that the page holds. -/
theorem taken_eq {page : Page} (h : page.Fits) (rows : List α) :
    page.taken rows = (rows.zipIdx.filter fun row => page.Holds row.2).map Prod.fst := by
  obtain ⟨first, hfirst⟩ := Int.eq_ofNat_of_zero_le h.offset_nonneg
  have hfrom := rows_from rows 0 first
  rw [Nat.sub_zero, Nat.max_zero] at hfrom
  unfold taken
  rw [hfirst, Int.toNat_natCast]
  by_cases hopen : page.limit < 0
  · have hholds : ∀ row ∈ rows.zipIdx, decide (page.Holds row.2) = decide (first ≤ row.2) :=
      fun row _ => decide_eq_decide.mpr (by simp [Holds, hopen, hfirst])
    rw [if_pos hopen, List.filter_congr hholds, hfrom, List.zipIdx_map_fst]
  · obtain ⟨count, hcount⟩ := Int.eq_ofNat_of_zero_le (Int.not_lt.mp hopen)
    have hholds : ∀ row ∈ rows.zipIdx, decide (page.Holds row.2) =
        (decide (row.2 < first + count) && decide (first ≤ row.2)) := fun row _ => by
      rw [← Bool.decide_and]
      exact decide_eq_decide.mpr (by unfold Holds; omega)
    rw [if_neg hopen, List.filter_congr hholds, ← List.filter_filter, hfrom, rows_before, hcount,
      Int.toNat_natCast, Nat.add_sub_cancel_left]

end Rows

/-- A range that is open: nothing but blanks stands behind its first hyphen. -/
def IsOpenRange (range : String) : Prop :=
  ∃ before after, range = before ++ "-" ++ after ∧ '-' ∉ before.toList ∧ Text.trim after = ""

/-- A page spans a range: it holds the rows from the number before the first hyphen to the number
behind it, or all rows from there on where nothing stands behind it. -/
def Spans (page : Page) (range : String) : Prop :=
  ∃ before after first, range = before ++ "-" ++ after ∧ '-' ∉ before.toList ∧
    Text.int64? (Text.trim before) = some first ∧
    (Text.trim after = "" ∧ (∀ row, page.Holds row ↔ first ≤ row) ∨
      ∃ last, Text.int64? (Text.trim after) = some last ∧
        ∀ row, page.Holds row ↔ first ≤ row ∧ row ≤ last)

theorem spans_of_range {range : String} {page : Page} (h : range? range = some page) :
    page.Spans range := by
  obtain ⟨before, after, first, hcut, hfirst, hpage⟩ := range?_eq_some_iff.mp h
  obtain ⟨hrange, hfree⟩ := Text.eq_of_cutAt hcut
  refine ⟨before, after, first, hrange, hfree, hfirst, ?_⟩
  rcases hpage with ⟨hopen, rfl⟩ | ⟨_, last, hlast, _, _, rfl⟩
  · exact .inl ⟨hopen, fun row => by simp [Holds, noLimit]⟩
  · refine .inr ⟨last, hlast, fun row => ?_⟩
    unfold Holds
    simp only
    omega

/-- A page without a limit comes from an open range in the header. -/
theorem open_of_noLimit {request : Request} {page : Page}
    (h : ofRequest request = .ok (some page)) (unbounded : page.limit = noLimit) :
    ∃ range, request.header? Request.rangeName = some range ∧ IsOpenRange range := by
  rcases ofRequest_eq_ok_some.mp h with ⟨range, hheader, hrange⟩ | ⟨_, hparams⟩
  · obtain ⟨before, after, first, hcut, _, hpage⟩ :=
      range?_eq_some_iff.mp (ofRange_eq_ok.mp hrange)
    obtain ⟨heq, hfree⟩ := Text.eq_of_cutAt hcut
    rcases hpage with ⟨hopen, _⟩ | ⟨_, last, _, horder, _, rfl⟩
    · exact ⟨range, hheader, before, after, heq, hfree, hopen⟩
    · unfold noLimit at unbounded
      simp only at unbounded
      omega
  · have hlimit := (sum_of_params hparams).1
    rw [unbounded] at hlimit
    exact absurd hlimit (by decide)

/-- The page of a request is exact. It does not begin before the first row, and it is open, which
only an open range asks for, or ends within sixty-four bits, where its last row is computed
without a loss. The rows that a database gives for its text are those that it holds, and for a
range these are the rows that the range names. -/
theorem the_page_of_a_request_is_exact (request : Request) (page : Page)
    (paged : ofRequest request = .ok (some page)) :
    0 ≤ page.offset ∧
    (page.limit = noLimit ∧
        (∃ range, request.header? Request.rangeName = some range ∧ IsOpenRange range) ∨
      0 ≤ page.limit ∧ page.offset + page.limit - 1 ≤ Text.maxInt64) ∧
    Text.minInt64 ≤ page.limit - 1 ∧
    (page.isUnbounded = false → page.last = page.offset + page.limit - 1) ∧
    (∀ (α : Type) (rows : List α), (ofSql? page.sql).map (fun read => read.taken rows) =
      some ((rows.zipIdx.filter fun row => page.Holds row.2).map Prod.fst)) ∧
    ∀ range, request.header? Request.rangeName = some range → page.Spans range := by
  have hfits := fits_of_request paged
  have hlimit : Text.minInt64 ≤ page.limit - 1 :=
    Int.le_trans (by decide) (Int.sub_le_sub_right hfits.limit_ge 1)
  refine ⟨hfits.offset_nonneg, ?_, hlimit, fun bounded => ?_, fun α rows => ?_,
    fun range hheader => ?_⟩
  · rcases hfits.ends with hopen | hends
    · exact .inl ⟨hopen, open_of_noLimit paged hopen⟩
    · exact .inr hends
  · exact hfits.last_eq (by simpa [isUnbounded] using bounded)
  · rw [ofSql?_sql hfits, Option.map_some, taken_eq hfits]
  · rcases ofRequest_eq_ok_some.mp paged with ⟨range', hheader', hrange⟩ | ⟨hheader', _⟩
    · cases hheader.symm.trans hheader'
      exact spans_of_range (ofRange_eq_ok.mp hrange)
    · cases hheader.symm.trans hheader'

/-- The second and the third row of four, with blanks and a sign in the range. -/
theorem two_rows_of_a_range :
    let request : Request := { headers := [("Range", " +1 - 2")] }
    ofRequest request = .ok (some ⟨2, 1⟩) ∧
      (ofSql? (sql ⟨2, 1⟩)).map (fun read => read.taken ["a", "b", "c", "d"]) =
        some ["b", "c"] := by
  intro request
  have paged : ofRequest request = .ok (some ⟨2, 1⟩) := by decide +kernel
  obtain ⟨_, _, _, _, hrows, _⟩ := the_page_of_a_request_is_exact request ⟨2, 1⟩ paged
  refine ⟨paged, (hrows String ["a", "b", "c", "d"]).trans ?_⟩
  decide +kernel

/-! ## Ranges that are read again -/

/-- The part of a content range before the total. -/
def rangeHead (page : Page) : String :=
  numeral page.offset ++ "-" ++
    if page.limit < 0 then "" else numeral (page.offset + page.limit - 1)

/-- The part of a content range before its first slash is read as the same page where it is the
range of a request. -/
def ReadsBack (page : Page) : Prop :=
  ∀ total : String, ∃ text, Text.cutAt '/' (page.contentRange total) = some (text, total) ∧
    text ≠ "" ∧ ∀ again : Request, again.header? Request.rangeName = some text →
      ofRequest again = .ok (some page)

theorem cutAt_contentRange {page : Page} (h : page.Fits) (total : String) :
    Text.cutAt '/' (page.contentRange total) = some (page.rangeHead, total) := by
  have hsolid := not_mem_numeral (c := '/') (by decide) (by decide)
  rw [h.contentRange_eq]
  refine Text.cutAt_eq_some.mpr ⟨by simp [rangeText, rangeHead], ?_⟩
  have hfront : '/' ∉ (numeral page.offset ++ "-").toList :=
    Text.not_mem_append (hsolid _) (by decide)
  unfold rangeHead
  split
  · exact Text.not_mem_append hfront (by decide)
  · exact Text.not_mem_append hfront (hsolid _)

/-- What is told of a page with a row is read as the same page. -/
theorem range?_rangeHead {page : Page} (h : page.Fits) (some_row : page.limit ≠ 0) :
    range? page.rangeHead = some page := by
  have hoffset := h.offset_nonneg
  have hfirst : Text.int64? (Text.trim (numeral page.offset)) = some page.offset := by
    rw [trim_numeral]
    exact int64?_numeral (Int.le_trans (by decide) hoffset) h.offset_le
  have hfree := hyphen_not_mem_numeral hoffset
  unfold rangeHead
  by_cases hopen : page.limit < 0
  · have hlimit : page.limit = noLimit :=
      h.ends.resolve_right fun hends => absurd hopen (Int.not_lt.mpr hends.1)
    refine range?_eq_some_iff.mpr ⟨numeral page.offset, "", page.offset, ?_, hfirst,
      .inl ⟨by decide, by rw [← hlimit]⟩⟩
    exact Text.cutAt_eq_some.mpr ⟨by simp [hopen], hfree⟩
  · obtain ⟨hlimit, hend⟩ := h.limit_nonneg hopen
    have hlast : Text.int64? (numeral (page.offset + page.limit - 1)) =
        some (page.offset + page.limit - 1) :=
      int64?_numeral (by unfold Text.minInt64; omega) hend
    have hcount : page.offset + page.limit - 1 - page.offset + 1 = page.limit := by omega
    refine range?_eq_some_iff.mpr ⟨numeral page.offset, numeral (page.offset + page.limit - 1),
      page.offset, ?_, hfirst, .inr ?_⟩
    · exact Text.cutAt_eq_some.mpr ⟨by simp [hopen], hfree⟩
    · rw [trim_numeral]
      refine ⟨numeral_ne_empty _, _, hlast, by omega, ?_, ?_⟩
      · rw [hcount]
        exact h.limit_le
      · rw [hcount]

theorem readsBack {page : Page} (h : page.Fits) (some_row : page.limit ≠ 0) :
    page.ReadsBack := by
  intro total
  refine ⟨page.rangeHead, cutAt_contentRange h total, fun hempty => ?_, fun again hheader => ?_⟩
  · have hlist := congrArg String.toList hempty
    simp [rangeHead] at hlist
  · exact ofRequest_eq_ok_some.mpr
      (.inl ⟨_, hheader, ofRange_eq_ok.mpr (range?_rangeHead h some_row)⟩)

theorem limit_ne_zero_of_range {range : String} {page : Page} (h : range? range = some page) :
    page.limit ≠ 0 := by
  obtain ⟨_, _, first, _, _, ⟨_, rfl⟩ | ⟨_, last, _, horder, _, rfl⟩⟩ := range?_eq_some_iff.mp h
  · exact (by decide : noLimit ≠ 0)
  · simp only
    omega

/-- A content range is a range again. For each range that is accepted, and for each limit of at
least one with an offset that is accepted, the content range up to its slash asks for the very
same page. So a page with a row that a request asks for is asked for by its own content range. -/
theorem a_content_range_asks_for_its_own_page :
    (∀ (range : String) (page : Page), ofRange range = .ok page → page.ReadsBack) ∧
    (∀ (params : Params) (page : Page), ofParams params = .ok (some page) → 1 ≤ page.limit →
      page.ReadsBack) ∧
    ∀ (request : Request) (page : Page), ofRequest request = .ok (some page) → page.limit ≠ 0 →
      page.ReadsBack := by
  refine ⟨fun range page hrange => ?_, fun params page hparams hlimit => ?_,
    fun request page hpage hrow => readsBack (fits_of_request hpage) hrow⟩
  · have hread := ofRange_eq_ok.mp hrange
    exact readsBack (fits_of_range hread) (limit_ne_zero_of_range hread)
  · exact readsBack (fits_of_params hparams) (by omega)

/-- The last page of all, a page of all rows but one, and an open one. -/
theorem ranges_at_the_end_are_read_again :
    ofParams ⟨[("limit", "1"), ("offset", "9223372036854775806")]⟩ =
        .ok (some ⟨1, 9223372036854775806⟩) ∧ ReadsBack ⟨1, 9223372036854775806⟩ ∧
      ofRange "1-9223372036854775807" = .ok ⟨9223372036854775807, 1⟩ ∧
      ReadsBack ⟨9223372036854775807, 1⟩ ∧
      ofRange " 9223372036854775807 -" = .ok ⟨-1, 9223372036854775807⟩ ∧
      ReadsBack ⟨-1, 9223372036854775807⟩ := by
  obtain ⟨hranges, hparams, _⟩ := a_content_range_asks_for_its_own_page
  have params : ofParams ⟨[("limit", "1"), ("offset", "9223372036854775806")]⟩ =
      .ok (some ⟨1, 9223372036854775806⟩) := by decide +kernel
  have closed : ofRange "1-9223372036854775807" = .ok ⟨9223372036854775807, 1⟩ := by
    decide +kernel
  have endless : ofRange " 9223372036854775807 -" = .ok ⟨-1, 9223372036854775807⟩ := by
    decide +kernel
  exact ⟨params, hparams _ _ params (by decide), closed, hranges _ _ closed, endless,
    hranges _ _ endless⟩

end Page

end TableGateway
