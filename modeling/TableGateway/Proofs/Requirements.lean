import TableGateway.Proofs.Likeness
import TableGateway.Proofs.MediaTypes
import TableGateway.Proofs.SingleEntries
import TableGateway.Proofs.Targets

-- The laws of requirements. A kind of statement has a list of requirements: a statement is made
-- where all of them are met, and otherwise the first one that is not decides about the refusal.

namespace TableGateway

open Fallible

/-! ## Steps and their requirements -/

/-- What a request has to meet, and the faults that it is refused with where it does not. -/
structure Requirement where
  met : Prop
  refusal : Fault → Prop

namespace Requirement

variable {α β : Type}

/-- The first requirement that is not met refuses with a fault. -/
def Refuses (requirements : List Requirement) (fault : Fault) : Prop :=
  ∃ before broken after, requirements = before ++ broken :: after ∧
    (∀ requirement ∈ before, requirement.met) ∧ ¬ broken.met ∧ broken.refusal fault

theorem not_refuses_nil (fault : Fault) : ¬ Refuses [] fault := by
  rintro ⟨before, broken, after, heq, _⟩
  exact absurd heq.symm (by simp)

/-- A requirement refuses by itself, or it is met and one that comes later refuses. -/
theorem refuses_cons {first : Requirement} {others : List Requirement} {fault : Fault} :
    Refuses (first :: others) fault ↔
      (¬ first.met ∧ first.refusal fault) ∨ first.met ∧ Refuses others fault := by
  constructor
  · rintro ⟨before, broken, after, heq, hbefore, hbroken, hfault⟩
    cases before with
    | nil =>
      cases heq
      exact .inl ⟨hbroken, hfault⟩
    | cons requirement before =>
      cases heq
      obtain ⟨hfirst, hbefore⟩ := List.forall_mem_cons.mp hbefore
      exact .inr ⟨hfirst, before, broken, after, rfl, hbefore, hbroken, hfault⟩
  · rintro (⟨hbroken, hfault⟩ | ⟨hfirst, before, broken, after, rfl, hbefore, hbroken, hfault⟩)
    · exact ⟨[], first, others, rfl, by simp, hbroken, hfault⟩
    · exact ⟨first :: before, broken, after, rfl, List.forall_mem_cons.mpr ⟨hfirst, hbefore⟩,
        hbroken, hfault⟩

theorem refuses_append {earlier later : List Requirement} {fault : Fault} :
    Refuses (earlier ++ later) fault ↔ Refuses earlier fault ∨
      (∀ requirement ∈ earlier, requirement.met) ∧ Refuses later fault := by
  induction earlier with
  | nil => simp [not_refuses_nil]
  | cons first earlier ih =>
    rw [List.cons_append, refuses_cons, refuses_cons, ih, List.forall_mem_cons, and_or_left,
      or_assoc, and_assoc]

/-- A step goes through where all requirements are met, and otherwise it is refused for the first
one that is not. -/
structure Govern (requirements : List Requirement) (step : Except Fault α) : Prop where
  goes : (∃ a, step = .ok a) ↔ ∀ requirement ∈ requirements, requirement.met
  refused : ∀ fault, step = .error fault ↔ Refuses requirements fault

/-- The requirement that a step goes through, with its own faults. -/
def ofStep (step : Except Fault α) : Requirement :=
  ⟨∃ a, step = .ok a, fun fault => step = .error fault⟩

namespace Govern

variable {first : Requirement} {requirements : List Requirement} {step : Except Fault α}

/-- No requirement governs a step that always goes through. -/
theorem ok (a : α) : Govern [] (.ok a) where
  goes := iff_of_true ⟨a, rfl⟩ (by simp)
  refused fault := iff_of_false nofun (not_refuses_nil fault)

/-- A requirement that is met changes nothing. -/
theorem met (hmet : first.met) (h : Govern requirements step) :
    Govern (first :: requirements) step where
  goes := by rw [List.forall_mem_cons, and_iff_right hmet, h.goes]
  refused fault := by
    rw [refuses_cons, and_iff_right hmet, or_iff_right fun hbroken => hbroken.1 hmet]
    exact h.refused fault

/-- A requirement that is not met decides, whatever the later ones are. -/
theorem broken {fault : Fault} (hbroken : ¬ first.met)
    (hrefusal : ∀ other, first.refusal other ↔ other = fault) :
    Govern (first :: requirements) (.error fault : Except Fault α) where
  goes := iff_of_false nofun fun h => hbroken (h first List.mem_cons_self)
  refused other := by
    rw [refuses_cons, and_iff_right hbroken, or_iff_left fun h => hbroken h.1, hrefusal]
    exact ⟨fun h => (Except.error.inj h).symm, fun h => congrArg _ h.symm⟩

/-- One requirement says when a step goes through and how it is refused. -/
theorem single (goes : (∃ a, step = .ok a) ↔ first.met)
    (refused : ∀ fault, step = .error fault ↔ first.refusal fault) : Govern [first] step where
  goes := by rw [List.forall_mem_singleton, goes]
  refused fault := by
    rw [refuses_cons, or_iff_left fun h => not_refuses_nil fault h.2, ← goes, ← refused]
    refine (and_iff_right_of_imp fun h => ?_).symm
    rintro ⟨a, ha⟩
    cases ha.symm.trans h

/-- A step is its own requirement. -/
theorem ofStep (step : Except Fault α) : Govern [Requirement.ofStep step] step :=
  single Iff.rfl fun _ => Iff.rfl

/-- A step goes on to a step with later requirements. -/
theorem andThen {later : List Requirement} {next : α → Except Fault β}
    (h : Govern requirements step) (hnext : ∀ a, step = .ok a → Govern later (next a)) :
    Govern (requirements ++ later) (step >>= next) := by
  cases hstep : step with
  | ok a =>
    have hall := h.goes.mp ⟨a, hstep⟩
    obtain ⟨hgoes, hrefused⟩ := hnext a hstep
    refine ⟨?_, fun fault => ?_⟩
    · rw [List.forall_mem_append, and_iff_right hall]
      exact hgoes
    · have hnone : ¬ Refuses requirements fault := by
        rw [← h.refused, hstep]
        exact nofun
      rw [refuses_append, and_iff_right hall, or_iff_right hnone]
      exact hrefused fault
  | error fault =>
    have hnot : ¬ ∀ requirement ∈ requirements, requirement.met := by
      rw [← h.goes, hstep]
      exact nofun
    refine ⟨iff_of_false nofun fun hall => hnot (List.forall_mem_append.mp hall).1, fun other => ?_⟩
    rw [refuses_append, or_iff_left fun hlater => hnot hlater.1, ← h.refused, hstep]
    constructor
    · exact fun heq => congrArg _ (Except.error.inj heq)
    · exact fun heq => congrArg _ (Except.error.inj heq)

/-- A guard stands before a step with the other requirements. -/
theorem guard {p : Prop} [Decidable p] {fault : Fault} (hp : p ↔ ¬ first.met)
    (hrefusal : ∀ other, first.refusal other ↔ other = fault) (h : Govern requirements step) :
    Govern (first :: requirements) (if p then .error fault else step) := by
  by_cases hbroken : p
  · rw [if_pos hbroken]
    exact broken (hp.mp hbroken) hrefusal
  · rw [if_neg hbroken]
    exact h.met (not_not.mp (mt hp.mpr hbroken))

/-- What is made of the result in the end needs nothing. -/
theorem map {f : α → β} (h : Govern requirements step) :
    Govern requirements (step >>= fun a => pure (f a)) where
  goes := by
    rw [← h.goes]
    exact ⟨fun ⟨b, hb⟩ => (bind_eq_ok.mp hb).imp fun _ h => h.1,
      fun ⟨a, ha⟩ => ⟨f a, bind_eq_ok.mpr ⟨a, ha, rfl⟩⟩⟩
  refused fault := by
    rw [← h.refused fault, bind_eq_error]
    exact or_iff_left fun ⟨_, _, h⟩ => pure_ne_error h

end Govern

end Requirement

/-! ## Columns of a conflict -/

namespace Conflict

/-- A name may stand for a column of a conflict: it is an identifier, and a column where those
are known. -/
def Passes (known : Option (List String)) (name : String) : Prop :=
  IsIdentifier name ∧ ∀ columns, known = some columns → name ∈ columns

theorem checkName_passes {known : Option (List String)} {name : String} :
    checkName known name = .ok () ↔ Passes known name := by
  rw [checkName_eq_ok, isPlainName_iff, Passes]

theorem checkName_eq_error {known : Option (List String)} {name : String} {fault : Fault} :
    checkName known name = .error fault ↔
      ¬ Passes known name ∧ fault = .badRequest (refusal name) := by
  rw [← checkName_passes]
  unfold checkName refusal
  cases hplain : isPlainName name with
  | false => simp [eq_comm]
  | true =>
    cases known with
    | none => simp
    | some columns => by_cases hmem : name ∈ columns <;> simp [hmem, eq_comm]

theorem columns_eq (request : Request) (known : Option (List String)) :
    Conflict.columns request known =
      ((names request).forM (checkName known)).map fun _ => names request := by
  unfold Conflict.columns names
  cases request.params.given? conflictKey with
  | none => rfl
  | some raw => rfl

end Conflict

/-! ## The requirements of statements -/

namespace Request

/-- One of the texts between the commas of the content type is the media type of JSON. -/
def OffersJson (request : Request) : Prop :=
  ∃ header, request.header? contentTypeName = some header ∧
    ∃ candidate ∈ Text.pieces ',' header, MediaType.IsJsonText (Text.trim candidate)

def jsonIsOffered (request : Request) : Requirement :=
  ⟨request.OffersJson, fun fault => fault = .unsupportedMediaType⟩

/-- Something holds of the rows of the body. -/
def rowsAre (request : Request) (holds : Payload → Prop) (hint : String) : Requirement :=
  ⟨∀ payload, Payload.ofJson request.body = .ok payload → holds payload,
    fun fault => fault = .badRequest hint⟩

/-- Every filter makes sense. The first one that does not is told, filters of one key together. -/
def filtersAreRead (request : Request) : Requirement :=
  ⟨∀ pair ∈ request.params.pairs, isColumnKey pair.1 = true →
      ∃ clause?, Filter.parse pair.1 pair.2 = .ok clause?,
    fun fault => ∃ before pair after, request.params.filters = before ++ pair :: after ∧
      (∀ earlier ∈ before, Filter.Sound earlier) ∧ Filter.parse pair.1 pair.2 = .error fault⟩

/-- Where a resolution is wished, every name of the conflict passes. The first one that does not
is told. -/
def targetsPass (request : Request) (known : Option (List String)) : Requirement :=
  ⟨∀ preference, Preference.ofRequest request = .ok preference → preference.resolution ≠ .none →
      ∀ name ∈ Conflict.names request, Conflict.Passes known name,
    fun fault => ∃ before name after, Conflict.names request = before ++ name :: after ∧
      (∀ earlier ∈ before, Conflict.Passes known earlier) ∧ ¬ Conflict.Passes known name ∧
      fault = .badRequest (Conflict.refusal name)⟩

def insertRequirements (request : Request) (known : Option (List String)) : List Requirement :=
  [.ofStep (Preference.ofRequest request),
    request.jsonIsOffered,
    .ofStep (Payload.ofJson request.body),
    request.rowsAre (fun payload => payload.rows ≠ []) "no data to insert",
    request.rowsAre (fun payload => payload.columns ≠ []) "no columns to insert",
    request.targetsPass known]

def updateRequirements (request : Request) : List Requirement :=
  [request.jsonIsOffered,
    .ofStep (Payload.ofJson request.body),
    request.rowsAre (fun payload => payload.rows ≠ []) "no data to update",
    request.rowsAre (fun payload => payload.rows.length ≤ 1) "too many data to update",
    request.rowsAre (fun payload => payload.columns ≠ []) "no columns to update",
    request.filtersAreRead]

/-- The requirements of a kind of statement, in the order in which they are looked at. -/
def requirements (request : Request) (known : Option (List String)) :
    StatementKind → List Requirement
  | .select =>
    [request.filtersAreRead, .ofStep request.orderItems, .ofStep (Page.ofRequest request)]
  | .exactCount | .delete => [request.filtersAreRead]
  | .insert => request.insertRequirements known
  | .update => request.updateRequirements
  | .updateSingleEntry => request.updateRequirements ++
      [⟨request.params.HasFilter,
        fun fault => fault = .badRequest "expect to specify primary key query"⟩]

/-! ## The steps of statements -/

open Requirement

variable {request : Request} {known : Option (List String)} {table : String}

theorem offersJson_iff : request.OffersJson ↔
    Payload.offersJson ((request.header? contentTypeName).getD Payload.defaultContentType) =
      true := by
  unfold OffersJson
  simp only [← Payload.offersJson_iff]
  cases request.header? contentTypeName with
  | none => simp; decide
  | some header => simp

theorem govern_ofRequest :
    Govern [request.jsonIsOffered, .ofStep (Payload.ofJson request.body)]
      (Payload.ofRequest request) := by
  unfold Payload.ofRequest
  split
  · rename_i hoffers
    exact (Govern.ofStep _).met (offersJson_iff.mpr hoffers)
  · rename_i hnone
    exact .broken (mt offersJson_iff.mp hnone) fun _ => Iff.rfl

/-- Of the rows that are read, something holds or not. -/
theorem rowsAre_met {payload : Payload} {holds : Payload → Prop} {hint : String}
    (h : Payload.ofRequest request = .ok payload) :
    (request.rowsAre holds hint).met ↔ holds payload := by
  have hread := Payload.ofRequest_eq_ok h
  constructor
  · exact fun hall => hall payload hread
  · intro hholds other hother
    cases hread.symm.trans hother
    exact hholds

theorem govern_insertPayload :
    Govern [request.jsonIsOffered, .ofStep (Payload.ofJson request.body),
      request.rowsAre (fun payload => payload.rows ≠ []) "no data to insert",
      request.rowsAre (fun payload => payload.columns ≠ []) "no columns to insert"]
      request.insertPayload := by
  refine govern_ofRequest.andThen fun payload h => ?_
  refine .guard ?_ (fun _ => Iff.rfl) (.guard ?_ (fun _ => Iff.rfl) (.ok payload))
  · rw [rowsAre_met h, not_not, List.isEmpty_iff]
  · rw [rowsAre_met h, not_not, List.isEmpty_iff]

theorem govern_updatePayload :
    Govern [request.jsonIsOffered, .ofStep (Payload.ofJson request.body),
      request.rowsAre (fun payload => payload.rows ≠ []) "no data to update",
      request.rowsAre (fun payload => payload.rows.length ≤ 1) "too many data to update",
      request.rowsAre (fun payload => payload.columns ≠ []) "no columns to update"]
      request.updatePayload := by
  refine govern_ofRequest.andThen fun payload h => ?_
  refine .guard ?_ (fun _ => Iff.rfl) (.guard ?_ (fun _ => Iff.rfl)
    (.guard ?_ (fun _ => Iff.rfl) (.ok payload)))
  · rw [rowsAre_met h, not_not, List.isEmpty_iff]
  · rw [rowsAre_met h, not_le]
  · rw [rowsAre_met h, not_not, List.isEmpty_iff]

theorem govern_clauses : Govern [request.filtersAreRead] request.clauses := by
  refine .single ?_ fun fault => clauses_eq_error
  have hpairs : request.filtersAreRead.met ↔
      ∀ pair ∈ request.params.filters, Filter.Sound pair := by
    rw [forall_mem_filters]
    simp only [Params.columnPairs, List.mem_filter, and_imp]
    rfl
  rw [hpairs]
  constructor
  · rintro ⟨clauses, h⟩
    exact (clauses_eq_ok.mp h).1
  · intro h
    exact ⟨_, clauses_eq_ok.mpr ⟨h, rfl⟩⟩

/-- The names of a conflict are looked at only where a resolution is wished. -/
theorem govern_suffix {preference : Preference} (payloadColumns : List String)
    (hpreference : Preference.ofRequest request = .ok preference) :
    Govern [request.targetsPass known]
      (Conflict.suffix request known preference.resolution payloadColumns) := by
  unfold Conflict.suffix
  split
  · rename_i hnone
    refine (Govern.ok "").met fun other hother wished => ?_
    cases hpreference.symm.trans hother
    exact absurd (Conflict.action_eq_none.mp hnone) wished
  · rename_i action haction
    have wished : preference.resolution ≠ .none := fun hnone => by
      rw [Conflict.action_eq_none.mpr hnone] at haction
      cases haction
    have hmet : (request.targetsPass known).met ↔
        ∀ name ∈ Conflict.names request, Conflict.Passes known name := by
      constructor
      · exact fun h => h preference hpreference wished
      · exact fun h _ _ _ => h
    refine .single ?_ fun fault => ?_
    · simp only [Conflict.columns_eq, map_eq_ok, forM_eq_ok, Conflict.checkName_passes, hmet]
      constructor
      · rintro ⟨_, _, ⟨_, h, _⟩, _⟩
        exact h
      · intro h
        exact ⟨_, _, ⟨(), h, rfl⟩, rfl⟩
    · simp only [Conflict.columns_eq, map_eq_error, forM_eq_error, Conflict.checkName_passes,
        Conflict.checkName_eq_error]
      rfl

theorem govern_insert : Govern (request.insertRequirements known) (request.insert known table) := by
  refine (Govern.ofStep _).andThen fun preference hpreference => ?_
  refine govern_insertPayload.andThen fun payload _ => ?_
  exact (govern_suffix payload.columns hpreference).map

theorem govern_update : Govern request.updateRequirements (request.update table) :=
  govern_updatePayload.andThen fun _ _ => govern_clauses.map

theorem govern_updateSingleEntry :
    Govern (request.requirements known .updateSingleEntry) (request.updateSingleEntry table) := by
  have hentry (payload : Payload) : Govern (request.filtersAreRead :: [⟨request.params.HasFilter,
      fun fault => fault = .badRequest "expect to specify primary key query"⟩])
      (request.clauses >>= fun clauses =>
        if clauses.isEmpty then .error (.badRequest "expect to specify primary key query")
        else pure ((assignments table payload).restricted clauses)) := by
    refine govern_clauses.andThen fun clauses hclauses => .guard ?_ (fun _ => Iff.rfl) (.ok _)
    rw [← clauses_ne_nil hclauses, not_not, List.isEmpty_iff]
  exact govern_updatePayload.andThen fun payload _ => hentry payload

theorem govern_select : Govern (request.requirements known .select) (request.select table) := by
  refine govern_clauses.andThen fun clauses _ => ?_
  exact (Govern.ofStep _).andThen fun items _ => (Govern.ofStep (Page.ofRequest request)).map

/-- The requirements of a kind govern its statements. -/
theorem govern_compile (request : Request) (known : Option (List String)) (kind : StatementKind)
    (table : String) :
    Govern (request.requirements known kind) (request.compile known kind table) := by
  cases kind with
  | select => exact govern_select
  | exactCount => exact govern_clauses.map
  | insert => exact govern_insert
  | update => exact govern_update
  | updateSingleEntry => exact govern_updateSingleEntry
  | delete => exact govern_clauses.map

/-! ## What is looked at -/

theorem ofRequest_of_offers {request' : Request} (body : request'.body = request.body)
    (offers : request'.OffersJson ↔ request.OffersJson) :
    Payload.ofRequest request' = Payload.ofRequest request := by
  rw [offersJson_iff, offersJson_iff] at offers
  unfold Payload.ofRequest
  rw [Bool.eq_iff_iff.mpr offers, body]

/-- Of the content type, a statement depends on nothing but whether JSON is offered. -/
theorem compile_of_offers {request' : Request} (params : request'.params = request.params)
    (body : request'.body = request.body)
    (headers : ∀ name ∈ [preferName, rangeName], request'.header? name = request.header? name)
    (offers : request'.OffersJson ↔ request.OffersJson) (kind : StatementKind) :
    request'.compile known kind table = request.compile known kind table := by
  have hread : ∀ name ∈ kind.headerNames, name ≠ contentTypeName →
      name ∈ [preferName, rangeName] := by
    cases kind <;> decide
  refine compile_congr ?_ ?_ ?_ (fun _ => ofRequest_of_offers body offers) known table
  · intro _
    rw [clauses, clauses, params]
  · intro key _
    rw [params]
  · intro name hname other
    exact headers name (hread name hname other)

/-- Where rows are taken, a request without JSON is refused for that before its body is read. -/
theorem refuses_without_json {kind : StatementKind} (takes : kind.takesRows = true)
    (offers : ¬ request.OffersJson)
    (prefers : kind = .insert → ∃ preference, Preference.ofRequest request = .ok preference) :
    Refuses (request.requirements known kind) .unsupportedMediaType := by
  have hupdate : Refuses request.updateRequirements .unsupportedMediaType :=
    refuses_cons.mpr (.inl ⟨offers, rfl⟩)
  cases kind with
  | select | exactCount | delete => cases takes
  | insert =>
    exact refuses_cons.mpr (.inr ⟨prefers rfl, refuses_cons.mpr (.inl ⟨offers, rfl⟩)⟩)
  | update => exact hupdate
  | updateSingleEntry => exact refuses_append.mpr (.inl hupdate)

/-! ## The law -/

/-- A statement is made exactly where all requirements of its kind are met, and a request that
does not meet them is refused for the first one that it does not meet. A content type without JSON
is refused whatever the body is, and of one with JSON nothing else matters. -/
theorem a_statement_is_made_where_all_requirements_are_met (request : Request)
    (known : Option (List String)) (kind : StatementKind) (table : String) :
    ((∃ statement, request.compile known kind table = .ok statement) ↔
      ∀ requirement ∈ request.requirements known kind, requirement.met) ∧
    (∀ fault, request.compile known kind table = .error fault ↔
      Refuses (request.requirements known kind) fault) ∧
    (kind.takesRows = true → ¬ request.OffersJson →
      (kind = .insert → ∃ preference, Preference.ofRequest request = .ok preference) →
      ∀ body, { request with body }.compile known kind table = .error .unsupportedMediaType) ∧
    ∀ request' : Request, request'.params = request.params → request'.body = request.body →
      (∀ name ∈ [preferName, rangeName], request'.header? name = request.header? name) →
      (request'.OffersJson ↔ request.OffersJson) →
      request'.compile known kind table = request.compile known kind table := by
  obtain ⟨hgoes, hrefused⟩ := govern_compile request known kind table
  refine ⟨hgoes, hrefused, fun takes offers prefers body => ?_,
    fun request' params body headers offers => compile_of_offers params body headers offers kind⟩
  exact ((govern_compile { request with body } known kind table).refused _).mpr
    (refuses_without_json takes offers prefers)

/-- Of two faults the one that comes first is told: a wish that is not known, before a body that
is no JSON. -/
example : cause? (Request.compile
    { headers := [("prefer", "count=all"), ("content-type", "text/csv, application/JSON")] }
    none .insert "pets") = some (.badRequest "unsupported count preference: all") := by
  decide

end Request

end TableGateway
