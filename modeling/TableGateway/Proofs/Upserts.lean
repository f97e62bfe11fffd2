import TableGateway.Proofs.Likeness
import TableGateway.Proofs.Ordered
import TableGateway.Proofs.Targets

-- The law of upserts. An insert that says what becomes of rows that are there already is the plain
-- insert, with the conflict and the columns that take their new values written at its end.

namespace TableGateway

open Fallible

namespace Request

/-! ## A request without a header -/

/-- The request without all headers of a name, in any letter case. -/
def withoutHeader (request : Request) (name : String) : Request :=
  { request with
    headers := request.headers.filter fun entry => !Text.sameLetters entry.1 name }

variable {request : Request} {known : Option (List String)} {table : String}

theorem header?_withoutHeader_self (name : String) :
    (request.withoutHeader name).header? name = none := by
  have hnone : (request.withoutHeader name).headers.find?
      (fun entry => Text.sameLetters entry.1 name) = none := by
    refine List.find?_eq_none.mpr fun entry hentry => ?_
    simpa using (List.mem_filter.mp hentry).2
  rw [header?, hnone]
  rfl

/-- Headers of another name stay. -/
theorem header?_withoutHeader {name other : String} (apart : Text.lower name ≠ Text.lower other) :
    (request.withoutHeader name).header? other = request.header? other := by
  have hfind : (request.withoutHeader name).headers.find?
      (fun entry => Text.sameLetters entry.1 other) =
        request.headers.find? fun entry => Text.sameLetters entry.1 other := by
    rw [withoutHeader, List.find?_filter]
    refine congrArg (fun p => request.headers.find? p) (funext fun entry => ?_)
    cases hother : Text.sameLetters entry.1 other with
    | false => simp
    | true =>
      have hname : Text.sameLetters entry.1 name = false := by
        refine beq_eq_false_iff_ne.mpr fun heq => apart ?_
        exact heq.symm.trans (beq_iff_eq.mp hother)
      simp [hname]
  rw [header?, header?, hfind]

/-! ## Plain inserts -/

/-- Where no resolution is wished, an insert ends after its rows. -/
theorem insert_of_no_resolution {preference : Preference}
    (hpreference : Preference.ofRequest request = .ok preference)
    (unwished : preference.resolution = .none) :
    request.insert known table = request.insertPayload.map (insertRows table) := by
  have hsuffix (columns : List String) :
      Conflict.suffix request known preference.resolution columns = .ok "" := by
    rw [unwished]
    rfl
  unfold insert
  rw [hpreference]
  cases request.insertPayload with
  | error fault => rfl
  | ok payload =>
    change (Conflict.suffix request known preference.resolution payload.columns >>= _) = _
    rw [hsuffix]
    have hrows : { insertRows table payload with text := (insertRows table payload).text ++ "" } =
        insertRows table payload := by rw [String.append_empty]
    exact congrArg Except.ok hrows

theorem insertPayload_withoutHeader :
    (request.withoutHeader preferName).insertPayload = request.insertPayload := by
  refine insertPayload_congr ?_
  unfold Payload.ofRequest
  rw [header?_withoutHeader (by decide)]
  rfl

/-- Without the header of wishes, an insert is the plain insert of the same rows. -/
theorem insert_withoutHeader (request : Request) (known : Option (List String)) (table : String) :
    (request.withoutHeader preferName).insert known table =
      request.insertPayload.map (insertRows table) := by
  have hpreference : Preference.ofRequest (request.withoutHeader preferName) = .ok {} := by
    rw [Preference.ofRequest, header?_withoutHeader_self]
  rw [insert_of_no_resolution hpreference rfl, insertPayload_withoutHeader]

/-! ## The end of an upsert -/

/-- The columns of a conflict are those that the request names, if it names any. -/
theorem target_names (request : Request) :
    (request.params.given? conflictKey = none →
      Conflict.target (Conflict.names request) = "") ∧
    ∀ raw, request.params.given? conflictKey = some raw →
      Conflict.target (Conflict.names request) =
        " (" ++ Text.joined ", " (Text.pieces ',' raw) ++ ")" := by
  constructor
  · intro hnone
    rw [Conflict.names, hnone]
    rfl
  · intro raw hraw
    have hsome : Text.pieces ',' raw ≠ [] :=
      mt List.map_eq_nil_iff.mp (Text.split_ne_nil _ raw.toList)
    rw [Conflict.names_of_given hraw, Conflict.target, if_neg (mt List.isEmpty_iff.mp hsome)]

/-! ## The law -/

/-- An upsert is the plain insert of the same rows, which the request without its wishes makes,
with an end: the conflict, the columns that the request names for it, if it names any, and what
happens then. That is nothing, or each column of the insert takes its new value, once and in the
order of the insert. Where no resolution is wished, the parameters are not looked at. -/
theorem an_upsert_is_the_insert_with_an_end (request : Request) (known : Option (List String))
    (table : String) :
    (∀ preference statement, Preference.ofRequest request = .ok preference →
      preference.resolution ≠ .none → request.insert known table = .ok statement →
      ∃ payload plain target action, Payload.ofRequest request = .ok payload ∧
        (∀ known', (request.withoutHeader preferName).insert known' table = .ok plain) ∧
        statement.values = plain.values ∧
        statement.text = plain.text ++ " on conflict" ++ target ++ action ∧
        (∃ places, plain.text = "insert into " ++ table ++ " (" ++
          Text.joined ", " payload.columns ++ ") values " ++ places) ∧
        payload.columns.Nodup ∧
        (request.params.given? conflictKey = none → target = "") ∧
        (∀ raw, request.params.given? conflictKey = some raw →
          target = " (" ++ Text.joined ", " (Text.pieces ',' raw) ++ ")") ∧
        (preference.resolution = .ignoreDuplicates → action = " do nothing") ∧
        (preference.resolution = .mergeDuplicates → action = " do update set " ++
          Text.joined ", " (payload.columns.map fun c => c ++ " = excluded." ++ c))) ∧
    ∀ preference, Preference.ofRequest request = .ok preference → preference.resolution = .none →
      ∀ params known', { request with params }.insert known' table =
        request.insert known table := by
  refine ⟨fun preference statement hpreference wished h => ?_,
    fun preference hpreference unwished params known' => ?_⟩
  · obtain ⟨preference', payload, suffix, hpreference', hpayload, hsuffix, rfl⟩ :=
      insert_eq_ok.mp h
    cases hpreference.symm.trans hpreference'
    rcases Conflict.suffix_eq_ok.mp hsuffix with
      ⟨hnone, _⟩ | ⟨action, columns, haction, hcolumns, rfl⟩
    · exact absurd (Conflict.action_eq_none.mp hnone) wished
    · obtain ⟨rfl, _⟩ := Conflict.columns_eq_ok.mp hcolumns
      obtain ⟨hread, _, _⟩ := insertPayload_eq_ok.mp hpayload
      obtain ⟨hunnamed, hnamed⟩ := target_names request
      refine ⟨payload, insertRows table payload, Conflict.target (Conflict.names request), action,
        hread, fun known' => ?_, rfl, ?_, ⟨_, insertRows_text table payload⟩, ?_, hunnamed, hnamed,
        fun hignore => ?_, fun hmerge => ?_⟩
      · rw [insert_withoutHeader, hpayload]
        rfl
      · simp only [← String.append_assoc]
      · exact Text.inOrder_nodup _
      · rw [hignore] at haction
        exact (Option.some.inj haction).symm
      · rw [hmerge] at haction
        exact (Option.some.inj haction).symm
  · have hsame : Preference.ofRequest { request with params } = .ok preference := hpreference
    rw [insert_of_no_resolution hpreference unwished, insert_of_no_resolution hsame unwished]
    rfl

/-- Both columns take their new values in an insert that merges. -/
example : ((Request.insert
    { params := ⟨[("on_conflict", "id")]⟩
      headers := [("Prefer", "resolution=merge-duplicates"), ("content-type", "application/json")]
      body := Text.bytes "\x7b\"name\": \"Rex\", \"id\": 1\x7d" } none "pets").toOption.map
        Statement.text) = some ("insert into pets (id, name) values (?, ?) on conflict (id)" ++
          " do update set id = excluded.id, name = excluded.name") := by
  decide +kernel

end Request

end TableGateway
