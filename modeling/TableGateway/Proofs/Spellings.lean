import TableGateway.Proofs.Filters

-- The laws of spellings. A reserved key names no column, in whatever letters it is written, but
-- what it says is looked up in lower case alone. So a pair with a reserved key in other letters is
-- neither a filter nor a parameter, and nobody reads it.

namespace TableGateway

/-! ## Keys -/

/-- A key with its reserved name in lower case. Every other key stays as it is. -/
def respelledKey (key : String) : String :=
  if Text.lower key ∈ reservedKeys then Text.lower key else key

/-- A key that is a reserved name but for the case of its letters. -/
def IsMisspelt (key : String) : Prop :=
  Text.lower key ∈ reservedKeys ∧ key ∉ reservedKeys

instance (key : String) : Decidable (IsMisspelt key) :=
  inferInstanceAs (Decidable (_ ∧ _))

variable {key other : String}

theorem lower_of_reserved (reserved : key ∈ reservedKeys) : Text.lower key = key := by
  have hall : ∀ name ∈ reservedKeys, Text.lower name = name := by decide
  exact hall key reserved

theorem not_isMisspelt_of_reserved (reserved : key ∈ reservedKeys) : ¬ IsMisspelt key :=
  fun misspelt => misspelt.2 reserved

theorem respelledKey_eq_iff (reserved : key ∈ reservedKeys) :
    respelledKey other = key ↔ Text.lower other = key := by
  unfold respelledKey
  split
  · rfl
  · rename_i hother
    constructor
    · rintro rfl
      exact lower_of_reserved reserved
    · rintro rfl
      exact absurd reserved hother

theorem respelledKey_of_column (column : isColumnKey key = true) : respelledKey key = key :=
  if_neg (Params.isColumnKey_iff.mp column)

/-- Respelling makes no filter of a parameter, and no parameter of a filter. -/
theorem isColumnKey_respelledKey (key : String) :
    isColumnKey (respelledKey key) = isColumnKey key := by
  by_cases hkey : Text.lower key ∈ reservedKeys
  · rw [Bool.eq_iff_iff, Params.isColumnKey_iff, Params.isColumnKey_iff, respelledKey,
      if_pos hkey, lower_of_reserved hkey]
  · rw [respelledKey, if_neg hkey]

theorem not_isMisspelt_of_column (column : isColumnKey key = true) : ¬ IsMisspelt key :=
  fun misspelt => Params.isColumnKey_iff.mp column misspelt.1

/-! ## Parameters -/

namespace Params

/-- The parameters with all reserved keys in lower case. -/
def respelled (params : Params) : Params :=
  ⟨params.pairs.map fun pair => (respelledKey pair.1, pair.2)⟩

/-- The parameters without the pairs whose keys are reserved names in other letters. -/
def heard (params : Params) : Params :=
  ⟨params.pairs.filter fun pair => ¬ IsMisspelt pair.1⟩

/-- The first pair of a reserved key, in any letters. -/
def firstPair? (params : Params) (key : String) : Option (String × String) :=
  params.pairs.find? fun pair => Text.lower pair.1 = key

/-- The first pair of a reserved key is not the one that is read, for it is written in other
letters. -/
def Misses (params : Params) (key : String) : Prop :=
  ∃ pair, params.firstPair? key = some pair ∧ pair.1 ≠ key

variable {params : Params}

theorem columnPairs_respelled (params : Params) :
    params.respelled.columnPairs = params.columnPairs := by
  unfold columnPairs respelled
  rw [List.filter_map]
  have hkeys : (fun pair : String × String => isColumnKey pair.1) ∘
      (fun pair : String × String => (respelledKey pair.1, pair.2)) =
        fun pair => isColumnKey pair.1 :=
    funext fun pair => by rw [Function.comp_apply, isColumnKey_respelledKey]
  rw [hkeys]
  conv_rhs => rw [← List.map_id (List.filter _ _)]
  apply List.map_congr_left
  intro pair hpair
  rw [respelledKey_of_column (List.mem_filter.mp hpair).2]
  rfl

theorem columnPairs_heard (params : Params) : params.heard.columnPairs = params.columnPairs := by
  unfold columnPairs heard
  rw [List.filter_filter]
  apply List.filter_congr
  intro pair _
  by_cases hcol : isColumnKey pair.1 = true
  · simp [hcol, not_isMisspelt_of_column hcol]
  · simp [hcol]

/-- Once they are respelled, parameters are read in any letters. -/
theorem get?_respelled (reserved : key ∈ reservedKeys) :
    params.respelled.get? key = (params.firstPair? key).map Prod.snd := by
  unfold get? respelled firstPair?
  have hkeys : (fun pair : String × String => pair.1 == key) ∘
      (fun pair : String × String => (respelledKey pair.1, pair.2)) =
        fun pair => decide (Text.lower pair.1 = key) := by
    funext pair
    exact Bool.eq_iff_iff.mpr (by simpa using respelledKey_eq_iff reserved)
  change Option.map Prod.snd ((params.pairs.map _).find? _) = _
  rw [List.find?_map, hkeys, Option.map_map]
  rfl

/-- A search for less finds the same where what the wider one finds is of the narrower kind. -/
theorem find?_eq_of_found {α : Type} {narrow wide : α → Bool} {l : List α}
    (wider : ∀ a, narrow a = true → wide a = true)
    (found : ∀ a, l.find? wide = some a → narrow a = true) : l.find? narrow = l.find? wide := by
  induction l with
  | nil => rfl
  | cons a l ih =>
    by_cases ha : wide a = true
    · have hnarrow : narrow a = true := found a (List.find?_cons_of_pos ha)
      rw [List.find?_cons_of_pos ha, List.find?_cons_of_pos hnarrow]
    · have hnarrow : ¬ narrow a = true := fun h => ha (wider a h)
      rw [List.find?_cons_of_neg ha] at found ⊢
      rw [List.find?_cons_of_neg hnarrow]
      exact ih found

/-- A parameter that is not missed is read in the letters that it has. -/
theorem get?_of_not_misses (reserved : key ∈ reservedKeys) (read : ¬ params.Misses key) :
    params.get? key = (params.firstPair? key).map Prod.snd := by
  have hfound : params.pairs.find? (fun pair => pair.1 == key) = params.firstPair? key := by
    apply find?_eq_of_found
    · intro pair hpair
      have hkey : pair.1 = key := by simpa using hpair
      simpa [hkey] using lower_of_reserved reserved
    · intro pair hpair
      by_contra hne
      exact read ⟨pair, hpair, by simpa using hne⟩
  rw [get?, hfound]

theorem given?_respelled (reserved : key ∈ reservedKeys) (read : ¬ params.Misses key) :
    params.respelled.given? key = params.given? key := by
  rw [given?, given?, get?_respelled reserved, get?_of_not_misses reserved read]

theorem given?_heard (reserved : key ∈ reservedKeys) :
    params.heard.given? key = params.given? key := by
  have hget : params.heard.get? key = params.get? key := by
    unfold get? heard
    rw [List.find?_filter]
    refine congrArg (fun p => (params.pairs.find? p).map Prod.snd) (funext fun pair => ?_)
    by_cases hkey : pair.1 = key
    · simp [hkey, not_isMisspelt_of_reserved reserved]
    · simp [hkey]
  rw [given?, given?, hget]

end Params

/-! ## The law -/

namespace Request

/-- The request with all reserved keys in lower case. -/
def respelled (request : Request) : Request :=
  { request with params := request.params.respelled }

/-- The request without the parameters that nobody reads. -/
def heard (request : Request) : Request :=
  { request with params := request.params.heard }

theorem reserved_of_parameterNames {kind : StatementKind} (h : key ∈ kind.parameterNames) :
    key ∈ reservedKeys := by
  have hall : ∀ name ∈ kind.parameterNames, name ∈ reservedKeys := by
    cases kind <;> decide
  exact hall key h

variable {request : Request}

theorem compile_heard (known : Option (List String)) (kind : StatementKind) (table : String) :
    request.heard.compile known kind table = request.compile known kind table := by
  apply compile_of_same_readings
  · rfl
  · intro _
    exact clauses_congr request.params.columnPairs_heard
  · intro key hkey
    exact Params.given?_heard (reserved_of_parameterNames hkey)
  · intro name _
    rfl

theorem page_heard : Page.ofRequest request.heard = Page.ofRequest request :=
  Page.ofRequest_congr rfl (Params.given?_heard (by decide)) (Params.given?_heard (by decide))

theorem compile_respelled {kind : StatementKind}
    (read : ∀ key ∈ kind.parameterNames, ¬ request.params.Misses key)
    (known : Option (List String)) (table : String) :
    request.respelled.compile known kind table = request.compile known kind table := by
  apply compile_of_same_readings
  · rfl
  · intro _
    exact clauses_congr request.params.columnPairs_respelled
  · intro key hkey
    exact Params.given?_respelled (reserved_of_parameterNames hkey) (read key hkey)
  · intro name _
    rfl

theorem page_respelled (limit : ¬ request.params.Misses limitKey)
    (offset : ¬ request.params.Misses offsetKey) :
    Page.ofRequest request.respelled = Page.ofRequest request :=
  Page.ofRequest_congr rfl (Params.given?_respelled (by decide) limit)
    (Params.given?_respelled (by decide) offset)

/-- A reserved key counts in lower case only. A pair that has it in other letters is read by
nobody: without such pairs, all statements and the range of a response are the same. Writing them
in lower case changes what they say, from nothing to the first value of their key. It changes no
statement of a kind, and no range, where the first pair of each parameter that is read for it is
in lower case. -/
theorem a_reserved_key_counts_in_lower_case_only (request : Request) :
    (∀ known kind table,
      request.heard.compile known kind table = request.compile known kind table) ∧
    (∀ total, Page.contentRangeOf? request.heard total = Page.contentRangeOf? request total) ∧
    (∀ key ∈ reservedKeys,
      request.respelled.params.get? key = (request.params.firstPair? key).map Prod.snd) ∧
    (∀ known kind table, (∀ key ∈ kind.parameterNames, ¬ request.params.Misses key) →
      request.respelled.compile known kind table = request.compile known kind table) ∧
    ∀ total, ¬ request.params.Misses limitKey → ¬ request.params.Misses offsetKey →
      Page.contentRangeOf? request.respelled total = Page.contentRangeOf? request total := by
  refine ⟨compile_heard, fun total => ?_, fun key reserved => Params.get?_respelled reserved,
    fun known kind table read => compile_respelled read known table,
    fun total limit offset => ?_⟩
  · rw [Page.contentRangeOf?, Page.contentRangeOf?, page_heard]
  · rw [Page.contentRangeOf?, Page.contentRangeOf?, page_respelled limit offset]

/-- A limit in capitals is no limit. -/
theorem a_limit_in_capitals_is_swallowed :
    ¬ ∀ (request : Request) (known : Option (List String)) (kind : StatementKind)
      (table : String),
      request.respelled.compile known kind table = request.compile known kind table := by
  intro always
  have hsame := always { params := ⟨[("LIMIT", "1")]⟩ } none .select "test"
  have htext := congrArg (fun made => made.toOption.map Statement.text) hsame
  exact absurd htext (by decide +kernel)

end Request

end TableGateway
