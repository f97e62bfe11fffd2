import TableGateway.Proofs.Pages

-- The grammar of ranges. How a range of rows is written is said here without a reader, and the
-- reader of ranges takes exactly the texts that are written so.

namespace TableGateway

namespace Page

/-! ## How ranges are written -/

/-- A range asks for a page. It is the number of the first row, a hyphen, and the number of the
last row or nothing, each among blanks. Both numbers fit sixty-four bits, the rows stand in
order, and there may not be more of them than can be counted. -/
inductive Asks : String → Page → Prop where
  | endless {before after : String} {start : List Char} {first : Nat}
      (begins : Text.IsPadded start before.toList) (start_number : Text.IsUnsigned start first)
      (start_fits : (first : Int) ≤ Text.maxInt64) (blank : Text.IsPadded [] after.toList) :
      Asks (before ++ "-" ++ after) ⟨-1, first⟩
  | closed {before after : String} {start stop : List Char} {first : Nat} {last : Int}
      (begins : Text.IsPadded start before.toList) (start_number : Text.IsUnsigned start first)
      (ends : Text.IsPadded stop after.toList) (stop_number : Text.IsNumeral stop last)
      (stop_fits : last ≤ Text.maxInt64) (order : (first : Int) ≤ last)
      (countable : ¬ (first = 0 ∧ last = Text.maxInt64)) :
      Asks (before ++ "-" ++ after) ⟨last - first + 1, first⟩

/-- No hyphen comes before the one of the range. -/
theorem hyphen_not_mem_before {before : String} {start : List Char} {first : Nat}
    (begins : Text.IsPadded start before.toList) (number : Text.IsUnsigned start first) :
    '-' ∉ before.toList := by
  obtain ⟨front, back, heq, hfront, hback⟩ := begins
  rw [heq]
  intro hmem
  rcases List.mem_append.mp hmem with hmem | hmem
  · rcases List.mem_append.mp hmem with hmem | hmem
    · exact absurd (hfront _ hmem) (by decide)
    · rcases number.mem hmem with hplus | hdigit
      · exact absurd hplus (by decide)
      · exact absurd hdigit (by decide)
  · exact absurd (hback _ hmem) (by decide)

theorem int64?_of_begins {before : String} {start : List Char} {first : Nat}
    (begins : Text.IsPadded start before.toList) (number : Text.IsUnsigned start first)
    (fits : (first : Int) ≤ Text.maxInt64) :
    Text.int64? (Text.trim before) = some (first : Int) := by
  rw [Text.trim_of_padded begins number.solid, Text.int64?_eq_some, String.toList_ofList]
  exact ⟨.unsigned number, Int.le_trans (by decide) (Int.natCast_nonneg first), fits⟩

theorem cutAt_hyphen {before after : String} (free : '-' ∉ before.toList) :
    Text.cutAt '-' (before ++ "-" ++ after) = some (before, after) :=
  Text.cutAt_eq_some.mpr ⟨by simp, free⟩

/-- The reader of ranges takes exactly the ranges of the grammar. -/
theorem range?_eq_some_iff_asks {range : String} {page : Page} :
    range? range = some page ↔ Asks range page := by
  rw [range?_eq_some_iff]
  constructor
  · rintro ⟨before, after, first, hcut, hfirst, hpage⟩
    obtain ⟨hrange, hfree⟩ := Text.eq_of_cutAt hcut
    replace hrange : range = before ++ "-" ++ after := hrange
    subst hrange
    obtain ⟨hnumeral, _, hfits⟩ := Text.int64?_eq_some.mp hfirst
    obtain ⟨start, hstart, rfl⟩ := hnumeral.unsigned_of_free fun h => hfree (Text.mem_of_mem_trim h)
    have hbegins := Text.isPadded_trim before
    have hends := Text.isPadded_trim after
    rcases hpage with ⟨hopen, rfl⟩ | ⟨_, last, hlast, horder, hcount, rfl⟩
    · rw [hopen] at hends
      exact .endless hbegins hstart hfits hends
    · obtain ⟨hstop, _, hstop_fits⟩ := Text.int64?_eq_some.mp hlast
      exact .closed hbegins hstart hends hstop hstop_fits horder (by omega)
  · intro h
    cases h with
    | @endless before after start first begins start_number start_fits blank =>
      have hopen : Text.trim after = "" := Text.trim_of_padded blank (by simp)
      exact ⟨before, after, first, cutAt_hyphen (hyphen_not_mem_before begins start_number),
        int64?_of_begins begins start_number start_fits, .inl ⟨hopen, rfl⟩⟩
    | @closed before after start stop first last begins start_number ends stop_number stop_fits
        order countable =>
      have hstop : Text.trim after = String.ofList stop :=
        Text.trim_of_padded ends stop_number.solid
      have hlast : Text.int64? (Text.trim after) = some last := by
        rw [hstop, Text.int64?_eq_some, String.toList_ofList]
        refine ⟨stop_number, ?_, stop_fits⟩
        exact Int.le_trans (by decide) (Int.le_trans (Int.natCast_nonneg first) order)
      have hclosed : Text.trim after ≠ "" := by
        intro hempty
        rw [hempty] at hlast
        cases hlast
      exact ⟨before, after, first, cutAt_hyphen (hyphen_not_mem_before begins start_number),
        int64?_of_begins begins start_number (Int.le_trans order stop_fits),
        .inr ⟨hclosed, last, hlast, order, by omega, rfl⟩⟩

/-! ## The law -/

/-- A request with a range in its header gets the page that the range asks for by the grammar of
ranges. A range that asks for no page is refused, and the refusal tells the range. Nothing else
of the request counts. -/
theorem a_range_is_read_by_its_grammar (request : Request) (range : String)
    (given : request.header? Request.rangeName = some range) :
    (∀ page, ofRequest request = .ok (some page) ↔ Asks range page) ∧
    (∀ fault, ofRequest request = .error fault ↔
      (∀ page, ¬ Asks range page) ∧ fault = .badRequest ("invalid range header: " ++ range)) ∧
    ofRequest request ≠ .ok none ∧
    ∀ other : Request, other.header? Request.rangeName = some range →
      ofRequest other = ofRequest request := by
  have heq : ∀ request : Request, request.header? Request.rangeName = some range →
      ofRequest request = (ofRange range).map some := by
    intro request given
    rw [ofRequest, given]
  rw [heq request given]
  unfold ofRange
  cases hrange : range? range with
  | some page =>
    have hasks : Asks range page := range?_eq_some_iff_asks.mp hrange
    refine ⟨fun page' => ?_, fun fault => ?_, by simp [Except.map], fun other given' => ?_⟩
    · rw [← range?_eq_some_iff_asks, hrange]
      simp [Except.map]
    · constructor
      · intro h
        cases h
      · rintro ⟨hnone, _⟩
        exact absurd hasks (hnone page)
    · rw [heq other given', ofRange, hrange]
  | none =>
    have hnone : ∀ page, ¬ Asks range page := fun page h => by
      rw [range?_eq_some_iff_asks.mpr h] at hrange
      cases hrange
    refine ⟨fun page => ?_, fun fault => ?_, by simp [Except.map], fun other given' => ?_⟩
    · constructor
      · intro h
        cases h
      · intro h
        exact absurd h (hnone page)
    · constructor
      · intro h
        cases h
        exact ⟨hnone, rfl⟩
      · rintro ⟨_, rfl⟩
        rfl
    · rw [heq other given', ofRange, hrange]

/-- One row is asked for with blanks and signs, and the limit beside it makes no sense. A hyphen
in front leaves no number before the first hyphen. -/
theorem a_sign_may_stand_before_the_last_row :
    let request : Request := { params := ⟨[("limit", "x")]⟩, headers := [("RANGE", " +0 - -0\t")] }
    let negative : Request := { params := ⟨[("limit", "1")]⟩, headers := [("Range", "-1-5")] }
    request.header? Request.rangeName = some " +0 - -0\t" ∧ Asks " +0 - -0\t" ⟨1, 0⟩ ∧
      negative.header? Request.rangeName = some "-1-5" ∧ ∀ page, ¬ Asks "-1-5" page := by
  intro request negative
  have given : request.header? Request.rangeName = some " +0 - -0\t" := by decide +kernel
  have given' : negative.header? Request.rangeName = some "-1-5" := by decide +kernel
  have paged : ofRequest request = .ok (some ⟨1, 0⟩) := by decide +kernel
  have refused : ofRequest negative =
      .error (.badRequest ("invalid range header: " ++ "-1-5")) := by decide +kernel
  obtain ⟨hpage, _⟩ := a_range_is_read_by_its_grammar request _ given
  obtain ⟨_, hrefused, _⟩ := a_range_is_read_by_its_grammar negative _ given'
  exact ⟨given, (hpage ⟨1, 0⟩).mp paged, given', ((hrefused _).mp refused).1⟩

end Page

end TableGateway
