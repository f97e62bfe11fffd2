import TableGateway.Proofs.Fallible
import TableGateway.Statement.Compile

-- The laws of faults. What is wrong with a request in itself is a fault that its sender can mend:
-- every reading of a part of it, and every statement, fails with such faults only.

namespace TableGateway

open Fallible

/-! ## Faults of requests -/

/-- A fault that the sender of a request can mend: the request makes no sense, or its body is of
another media type. -/
def Fault.IsClients (fault : Fault) : Prop :=
  fault.status = 400 ∨ fault.status = 415

theorem Fault.isClients_badRequest (hint : String) : (badRequest hint).IsClients :=
  .inl rfl

theorem Fault.isClients_decode (error : Json.ReadError) : (decode error).IsClients :=
  .inl rfl

theorem Fault.isClients_unsupportedOperator (operator : String) :
    (unsupportedOperator operator).IsClients :=
  .inl rfl

theorem Fault.isClients_invalidOrder (clause : String) : (invalidOrder clause).IsClients :=
  .inl rfl

theorem Fault.isClients_unsupportedMediaType : unsupportedMediaType.IsClients :=
  .inr rfl

theorem Fault.IsClients.status_mem {fault : Fault} (h : fault.IsClients) :
    fault.status ∈ [400, 415] := by
  simpa [IsClients] using h

/-- The statuses of all faults that do not come from the inside. -/
def outerStatuses : List Nat :=
  [400, 401, 403, 415]

theorem Fault.IsClients.outer {fault : Fault} (h : fault.IsClients) :
    fault.status ∈ outerStatuses := by
  rcases h with h | h <;> simp [h, outerStatuses]

/-- A step fails with faults of requests only. -/
def Blames {α : Type} (step : Except Fault α) : Prop :=
  ∀ fault, step = .error fault → fault.IsClients

namespace Blames

variable {α β : Type}

theorem ok (a : α) : Blames (.ok a : Except Fault α) :=
  nofun

theorem error {fault : Fault} (h : fault.IsClients) : Blames (.error fault : Except Fault α) := by
  intro fault' heq
  cases heq
  exact h

theorem map {step : Except Fault α} {f : α → β} (h : Blames step) : Blames (step.map f) :=
  fun fault heq => h fault (map_eq_error.mp heq)

theorem bind {step : Except Fault α} {next : α → Except Fault β} (h : Blames step)
    (hnext : ∀ a, Blames (next a)) : Blames (step >>= next) := by
  intro fault heq
  rcases bind_eq_error.mp heq with heq | ⟨a, _, heq⟩
  · exact h fault heq
  · exact hnext a fault heq

theorem mapM {l : List α} {f : α → Except Fault β} (h : ∀ a, Blames (f a)) : Blames (l.mapM f) := by
  intro fault heq
  obtain ⟨_, a, _, _, _, ha⟩ := mapM_eq_error.mp heq
  exact h a fault ha

theorem forM {l : List α} {f : α → Except Fault Unit} (h : ∀ a, Blames (f a)) :
    Blames (l.forM f) := by
  intro fault heq
  obtain ⟨_, a, _, _, _, ha⟩ := forM_eq_error.mp heq
  exact h a fault ha

theorem foldlM {l : List α} {f : β → α → Except Fault β} (h : ∀ b a, Blames (f b a)) (b : β) :
    Blames (l.foldlM f b) := by
  induction l generalizing b with
  | nil => exact ok b
  | cons a rest ih =>
    rw [List.foldlM_cons]
    exact (h b a).bind ih

end Blames

/-! ## Parts of requests -/

namespace Filter

theorem blames_inClause (column operand : String) : Blames (inClause column operand) := by
  unfold inClause
  split
  · exact .error (Fault.isClients_decode _)
  · exact .error (Fault.isClients_unsupportedOperator _)
  · exact .ok _

theorem blames_isClause (column operand : String) : Blames (isClause column operand) := by
  unfold isClause
  split
  · exact .ok _
  · exact .error (Fault.isClients_unsupportedOperator _)

theorem blames_clause (operator : Operator) (column operand : String) :
    Blames (clause operator column operand) := by
  unfold clause
  split
  · exact blames_inClause column operand
  · exact blames_isClause column operand
  · exact .ok _

theorem blames_parse (column raw : String) : Blames (parse column raw) := by
  unfold parse
  split
  · exact .ok _
  · split
    · exact .error (Fault.isClients_unsupportedOperator _)
    · split
      · exact .error (Fault.isClients_unsupportedOperator _)
      · split
        · exact .error (Fault.isClients_unsupportedOperator _)
        · exact (blames_clause _ column _).map

end Filter

theorem OrderItem.blames_parse (piece : String) : Blames (parse piece) := by
  unfold parse
  split
  · exact .ok _
  · split <;> exact .ok _
  · exact .ok _
  · exact .error (Fault.isClients_invalidOrder _)

namespace Page

theorem blames_ofRange (range : String) : Blames (ofRange range) := by
  unfold ofRange
  split
  · exact .ok _
  · exact .error (Fault.isClients_badRequest _)

theorem blames_number (params : Params) (key : String) : Blames (number params key) := by
  unfold number
  split
  · exact .ok _
  · split
    · exact .ok _
    · exact .error (Fault.isClients_badRequest _)

theorem blames_ofLimit (limit offset : Int) : Blames (ofLimit limit offset) := by
  unfold ofLimit
  split
  · exact .error (Fault.isClients_badRequest _)
  · exact .ok _

theorem blames_ofParams (params : Params) : Blames (ofParams params) := by
  unfold ofParams
  split
  · rename_i fault hlimit
    exact .error (blames_number params limitKey fault hlimit)
  · exact .ok _
  · split
    · rename_i fault hoffset
      exact .error (blames_number params offsetKey fault hoffset)
    · exact (blames_ofLimit _ _).map

theorem blames_ofRequest (request : Request) : Blames (ofRequest request) := by
  unfold ofRequest
  split
  · exact (blames_ofRange _).map
  · exact blames_ofParams request.params

end Page

theorem CountMethod.blames_parse (word : String) : Blames (parse word) := by
  unfold parse
  split_ifs
  · exact .ok _
  · exact .ok _
  · exact .error (Fault.isClients_badRequest _)

theorem Resolution.blames_parse (word : String) : Blames (parse word) := by
  unfold parse
  split_ifs
  · exact .ok _
  · exact .ok _
  · exact .ok _
  · exact .error (Fault.isClients_badRequest _)

namespace Preference

theorem blames_take (preference : Preference) (item : String) : Blames (preference.take item) := by
  unfold take
  split
  · exact .ok _
  · split_ifs
    · exact (CountMethod.blames_parse _).map
    · exact (Resolution.blames_parse _).map
    · exact .ok _

theorem blames_ofRequest (request : Request) : Blames (ofRequest request) := by
  unfold ofRequest
  split
  · exact .ok _
  · exact .foldlM blames_take _

end Preference

namespace Payload

theorem blames_ofJson (body : List UInt8) : Blames (ofJson body) := by
  unfold ofJson
  split_ifs <;> split
  · exact .ok _
  · exact .error (Fault.isClients_decode _)
  · exact .ok _
  · exact .error (Fault.isClients_decode _)

theorem blames_ofRequest (request : Request) : Blames (ofRequest request) := by
  unfold ofRequest
  split_ifs
  · exact blames_ofJson request.body
  · exact .error Fault.isClients_unsupportedMediaType

end Payload

namespace Conflict

theorem blames_checkName (known : Option (List String)) (name : String) :
    Blames (checkName known name) := by
  unfold checkName
  split_ifs
  · exact .error (Fault.isClients_badRequest _)
  · split
    · exact .ok _
    · split_ifs
      · exact .ok _
      · exact .error (Fault.isClients_badRequest _)

theorem blames_columns (request : Request) (known : Option (List String)) :
    Blames (columns request known) := by
  unfold columns
  split
  · exact .ok _
  · exact (Blames.forM (blames_checkName known)).map

theorem blames_suffix (request : Request) (known : Option (List String)) (resolution : Resolution)
    (payloadColumns : List String) : Blames (suffix request known resolution payloadColumns) := by
  unfold suffix
  split
  · exact .ok _
  · exact (blames_columns request known).map

end Conflict

/-! ## Statements of requests -/

namespace Request

theorem blames_clauses (request : Request) : Blames request.clauses :=
  .map (.mapM fun pair : String × String => Filter.blames_parse pair.1 pair.2)

theorem blames_orderItems (request : Request) : Blames request.orderItems := by
  unfold orderItems
  split
  · exact .ok _
  · exact .mapM OrderItem.blames_parse

theorem blames_select (request : Request) (table : String) : Blames (request.select table) :=
  request.blames_clauses.bind fun _ => request.blames_orderItems.bind fun _ =>
    (Page.blames_ofRequest request).bind fun _ => .ok _

theorem blames_exactCount (request : Request) (table : String) :
    Blames (request.exactCount table) :=
  request.blames_clauses.bind fun _ => .ok _

theorem blames_delete (request : Request) (table : String) : Blames (request.delete table) :=
  request.blames_clauses.bind fun _ => .ok _

theorem blames_insertPayload (request : Request) : Blames request.insertPayload := by
  refine (Payload.blames_ofRequest request).bind fun payload => ?_
  split_ifs
  · exact .error (Fault.isClients_badRequest _)
  · exact .error (Fault.isClients_badRequest _)
  · exact .ok _

theorem blames_insert (request : Request) (known : Option (List String)) (table : String) :
    Blames (request.insert known table) :=
  (Preference.blames_ofRequest request).bind fun preference =>
    request.blames_insertPayload.bind fun payload =>
      (Conflict.blames_suffix request known preference.resolution payload.columns).bind
        fun _ => .ok _

theorem blames_updatePayload (request : Request) : Blames request.updatePayload := by
  refine (Payload.blames_ofRequest request).bind fun payload => ?_
  split_ifs
  · exact .error (Fault.isClients_badRequest _)
  · exact .error (Fault.isClients_badRequest _)
  · exact .error (Fault.isClients_badRequest _)
  · exact .ok _

theorem blames_update (request : Request) (table : String) : Blames (request.update table) :=
  request.blames_updatePayload.bind fun _ => request.blames_clauses.bind fun _ => .ok _

theorem blames_updateSingleEntry (request : Request) (table : String) :
    Blames (request.updateSingleEntry table) := by
  refine request.blames_updatePayload.bind fun payload => request.blames_clauses.bind ?_
  intro clauses
  split_ifs
  · exact .error (Fault.isClients_badRequest _)
  · exact .ok _

/-- A request that becomes no statement is at fault itself. -/
theorem blames_compile (request : Request) (known : Option (List String)) (kind : StatementKind)
    (table : String) : Blames (request.compile known kind table) := by
  cases kind with
  | select => exact request.blames_select table
  | exactCount => exact request.blames_exactCount table
  | insert => exact request.blames_insert known table
  | update => exact request.blames_update table
  | updateSingleEntry => exact request.blames_updateSingleEntry table
  | delete => exact request.blames_delete table

end Request

end TableGateway
