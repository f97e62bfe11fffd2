import TableGateway.Proofs.RangeGrammar
import TableGateway.Proofs.Statements

-- The laws of limits and offsets. A number that makes no sense is refused, but an offset is a
-- number only beside a limit: without one there is no page, and the offset is passed over.

namespace TableGateway

open Fallible

namespace Page

/-! ## Numbers that count rows -/

/-- A text counts rows: it is a number from zero to the greatest one of sixty-four bits. -/
def IsCount (raw : String) : Prop :=
  ∃ n, Text.IsNumeral raw.toList n ∧ 0 ≤ n ∧ n ≤ Text.maxInt64

/-- A parameter is given, and it counts no rows. -/
def IsWrong (params : Params) (key raw : String) : Prop :=
  params.given? key = some raw ∧ ¬ IsCount raw

/-- The parameters that count rows. -/
def countKeys : List String := [limitKey, offsetKey]

/-- The refusal of a parameter that counts no rows. -/
def refusal (key raw : String) : Fault :=
  .badRequest ("invalid " ++ key ++ ": " ++ raw)

variable {params : Params} {key raw : String}

theorem number_of_absent (h : params.given? key = none) : number params key = .ok none := by
  rw [number, h]

/-- The reader of counts takes exactly the texts that count rows. -/
theorem count_eq_some {n : Int} :
    (Text.int64? raw).filter (0 ≤ ·) = some n ↔
      Text.IsNumeral raw.toList n ∧ 0 ≤ n ∧ n ≤ Text.maxInt64 := by
  rw [Option.filter_eq_some_iff, Text.int64?_eq_some, decide_eq_true_eq]
  constructor
  · rintro ⟨⟨hnumeral, _, hhigh⟩, hlow⟩
    exact ⟨hnumeral, hlow, hhigh⟩
  · rintro ⟨hnumeral, hlow, hhigh⟩
    exact ⟨⟨hnumeral, Int.le_trans (by decide) hlow, hhigh⟩, hlow⟩

theorem number_of_count (given : params.given? key = some raw) (counts : IsCount raw) :
    ∃ n, number params key = .ok (some n) := by
  obtain ⟨n, hcount⟩ := counts
  refine ⟨n, ?_⟩
  rw [number, given]
  simp only [count_eq_some.mpr hcount]

theorem number_of_wrong (wrong : IsWrong params key raw) :
    number params key = .error (refusal key raw) := by
  obtain ⟨given, hcount⟩ := wrong
  have hnone : (Text.int64? raw).filter (0 ≤ ·) = none := by
    rw [Option.eq_none_iff_forall_ne_some]
    exact fun n hn => hcount ⟨n, count_eq_some.mp hn⟩
  rw [number, given]
  simp only [hnone]
  rfl

/-! ## The first wrong number -/

/-- The number that a page is refused for: the limit, or the offset beside a limit that counts. -/
inductive FirstWrong (params : Params) : String → String → Prop where
  | limit {raw : String} (wrong : IsWrong params limitKey raw) : FirstWrong params limitKey raw
  | offset {limit raw : String} (given : params.given? limitKey = some limit)
      (counts : IsCount limit) (wrong : IsWrong params offsetKey raw) :
      FirstWrong params offsetKey raw

theorem ofParams_of_firstWrong (h : FirstWrong params key raw) :
    ofParams params = .error (refusal key raw) := by
  unfold ofParams
  cases h with
  | limit wrong => rw [number_of_wrong wrong]
  | offset given counts wrong =>
    obtain ⟨n, hn⟩ := number_of_count given counts
    rw [hn]
    simp only [number_of_wrong wrong]

/-- Beside a limit, one of the wrong numbers is the first. -/
theorem exists_firstWrong {limit : String} (limited : params.given? limitKey = some limit)
    (wrong : ∃ key ∈ countKeys, ∃ raw, IsWrong params key raw) :
    ∃ key raw, FirstWrong params key raw := by
  by_cases hlimit : IsCount limit
  · obtain ⟨key, hkey, raw, hwrong⟩ := wrong
    rcases List.mem_cons.mp hkey with rfl | hkey
    · exact ⟨limitKey, raw, .limit hwrong⟩
    · obtain rfl := List.mem_singleton.mp hkey
      exact ⟨offsetKey, raw, .offset limited hlimit hwrong⟩
  · exact ⟨limitKey, limit, .limit ⟨limited, hlimit⟩⟩

/-- Without a limit there is no page, whatever the offset is. -/
theorem ofParams_of_unlimited (unlimited : params.given? limitKey = none) :
    ofParams params = .ok none := by
  rw [ofParams, number_of_absent unlimited]

/-- A select whose page is refused is refused: for its filters or its order if one of them makes
no sense, and otherwise for its page. -/
theorem select_of_refused {request : Request} {fault : Fault}
    (refused : ofRequest request = .error fault) (table : String) :
    (∀ statement, request.select table ≠ .ok statement) ∧
    (∀ other, request.select table = .error other → other = fault ∨
      request.clauses = .error other ∨ request.orderItems = .error other) ∧
    ∀ clauses items, request.clauses = .ok clauses → request.orderItems = .ok items →
      request.select table = .error fault := by
  refine ⟨fun statement h => ?_, fun other h => ?_, fun clauses items hclauses hitems => ?_⟩
  · obtain ⟨_, _, page, _, _, hpage, _⟩ := Request.select_eq_ok.mp h
    cases refused.symm.trans hpage
  · rcases Request.select_eq_error.mp h with hclauses | ⟨_, _, hitems | ⟨_, _, hpage⟩⟩
    · exact .inr (.inl hclauses)
    · exact .inr (.inr hitems)
    · cases refused.symm.trans hpage
      exact .inl rfl
  · exact Request.select_eq_error.mpr (.inr ⟨clauses, hclauses, .inr ⟨items, hitems, refused⟩⟩)

/-! ## The law -/

/-- A wrong number is refused exactly where a limit is given. Beside a limit the refusal is a bad
request that tells the first wrong number, and no select is made: it is refused for the same
reason, unless its filters or its order are refused before. Without a limit there is no page, and
a wrong offset is passed over. -/
theorem a_wrong_number_is_refused_beside_a_limit (request : Request)
    (no_range : request.header? Request.rangeName = none)
    (wrong : ∃ key ∈ countKeys, ∃ raw, IsWrong request.params key raw) :
    ((∃ hint, ofRequest request = .error (.badRequest hint)) ↔
      ∃ limit, request.params.given? limitKey = some limit) ∧
    (∀ limit, request.params.given? limitKey = some limit → ∃ key raw,
      FirstWrong request.params key raw ∧ ofRequest request = .error (refusal key raw) ∧
      ∀ known table,
        (∀ statement, request.compile known .select table ≠ .ok statement) ∧
        (∀ fault, request.compile known .select table = .error fault → fault = refusal key raw ∨
          request.clauses = .error fault ∨ request.orderItems = .error fault) ∧
        ∀ clauses items, request.clauses = .ok clauses → request.orderItems = .ok items →
          request.compile known .select table = .error (refusal key raw)) ∧
    (request.params.given? limitKey = none → ofRequest request = .ok none) := by
  have hparams : ofRequest request = ofParams request.params := by
    rw [ofRequest, no_range]
  have hfirst : ∀ limit, request.params.given? limitKey = some limit → ∃ key raw,
      FirstWrong request.params key raw ∧ ofRequest request = .error (refusal key raw) := by
    intro limit limited
    obtain ⟨key, raw, hwrong⟩ := exists_firstWrong limited wrong
    exact ⟨key, raw, hwrong, hparams.trans (ofParams_of_firstWrong hwrong)⟩
  have hunlimited : request.params.given? limitKey = none → ofRequest request = .ok none :=
    fun unlimited => hparams.trans (ofParams_of_unlimited unlimited)
  refine ⟨⟨?_, ?_⟩, ?_, hunlimited⟩
  · rintro ⟨hint, hrefused⟩
    cases hlimit : request.params.given? limitKey with
    | some limit => exact ⟨limit, rfl⟩
    | none => cases hrefused.symm.trans (hunlimited hlimit)
  · rintro ⟨limit, limited⟩
    obtain ⟨key, raw, _, hrefused⟩ := hfirst limit limited
    exact ⟨_, hrefused⟩
  · intro limit limited
    obtain ⟨key, raw, hwrong, hrefused⟩ := hfirst limit limited
    exact ⟨key, raw, hwrong, hrefused, fun _ table => select_of_refused hrefused table⟩

theorem not_isCount_of_read (h : Text.integer? raw.toList = none) : ¬ IsCount raw := by
  rintro ⟨n, hnumeral, _⟩
  rw [Text.integer?_eq_some.mpr hnumeral] at h
  cases h

/-- A limit of three rows, and an offset in words. -/
theorem an_offset_in_words_is_refused :
    let request : Request := { params := ⟨[("limit", "3"), ("offset", "one")]⟩ }
    IsWrong request.params offsetKey "one" ∧
      ∃ hint, ofRequest request = .error (.badRequest hint) := by
  intro request
  have wrong : IsWrong request.params offsetKey "one" :=
    ⟨by decide +kernel, not_isCount_of_read (by decide +kernel)⟩
  obtain ⟨hrefused, _⟩ := a_wrong_number_is_refused_beside_a_limit request (by decide +kernel)
    ⟨offsetKey, by decide, "one", wrong⟩
  exact ⟨wrong, hrefused.mpr ⟨"3", by decide +kernel⟩⟩

/-- An offset in words is passed over where it stands alone. -/
theorem an_offset_alone_is_passed_over :
    ¬ ∀ request : Request, request.header? Request.rangeName = none →
      (∃ key ∈ countKeys, ∃ raw, IsWrong request.params key raw) →
      ∃ hint, ofRequest request = .error (.badRequest hint) := by
  intro always
  let request : Request := { params := ⟨[("offset", "x")]⟩ }
  have wrong : IsWrong request.params offsetKey "x" :=
    ⟨by decide +kernel, not_isCount_of_read (by decide +kernel)⟩
  obtain ⟨hint, hrefused⟩ := always request (by decide +kernel) ⟨offsetKey, by decide, "x", wrong⟩
  have hpage : ofRequest request = .ok none := by decide +kernel
  cases hrefused.symm.trans hpage

end Page

end TableGateway
