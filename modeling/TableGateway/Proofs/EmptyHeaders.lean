import TableGateway.Proofs.Statements

-- The laws of empty headers. A header that is empty says as much as no header, unless one of its
-- name that says something comes later: of a name, only the first header is looked at.

namespace TableGateway

namespace Request

/-! ## Headers of a name -/

/-- The values of the headers of a name, in any letter case and in the order of the request. -/
def valuesOf (request : Request) (name : String) : List String :=
  (request.headers.filter fun entry => Text.sameLetters entry.1 name).map Prod.snd

/-- The request without its empty headers. -/
def withoutEmpty (request : Request) : Request :=
  { request with headers := request.headers.filter fun entry => entry.2 ≠ "" }

/-- An empty header hides a value: it comes first of its name, and one of the name is not empty. -/
def Hides (request : Request) (name : String) : Prop :=
  (request.valuesOf name).head? = some "" ∧ ∃ value ∈ request.valuesOf name, value ≠ ""

variable {request : Request} {name : String}

theorem header?_eq (request : Request) (name : String) :
    request.header? name = (request.valuesOf name).head?.filter (· ≠ "") := by
  rw [header?, valuesOf, List.head?_map, List.head?_filter]

theorem valuesOf_withoutEmpty (request : Request) (name : String) :
    request.withoutEmpty.valuesOf name = (request.valuesOf name).filter (· ≠ "") := by
  unfold valuesOf withoutEmpty
  rw [List.filter_map, List.filter_filter, List.filter_filter]
  congr 1
  apply List.filter_congr
  intro entry _
  rw [Bool.and_comm]
  rfl

/-- Without the empty headers, a name has its first value that is not empty. -/
theorem header?_withoutEmpty (request : Request) (name : String) :
    request.withoutEmpty.header? name = (request.valuesOf name).find? (· ≠ "") := by
  rw [header?_eq, valuesOf_withoutEmpty, List.head?_filter]
  cases hfound : (request.valuesOf name).find? (· ≠ "") with
  | none => rfl
  | some value => rw [Option.filter_some, if_pos (List.find?_some hfound)]

theorem Hides.header?_eq_none (hides : request.Hides name) : request.header? name = none := by
  rw [header?_eq, hides.1]
  rfl

theorem Hides.header?_withoutEmpty (hides : request.Hides name) :
    ∃ value ∈ request.valuesOf name, value ≠ "" ∧
      request.withoutEmpty.header? name = some value := by
  obtain ⟨_, value, hvalue, hsays⟩ := hides
  have hsome : ((request.valuesOf name).find? (· ≠ "")).isSome :=
    List.find?_isSome.mpr ⟨value, hvalue, by simpa using hsays⟩
  obtain ⟨first, hfirst⟩ := Option.isSome_iff_exists.mp hsome
  refine ⟨first, List.mem_of_find?_eq_some hfirst, by simpa using List.find?_some hfirst, ?_⟩
  rw [request.header?_withoutEmpty, hfirst]

/-- A header is the same without the empty ones where none of them hides a value. -/
theorem header?_withoutEmpty_of_not_hides (reads : ¬ request.Hides name) :
    request.withoutEmpty.header? name = request.header? name := by
  rw [header?_withoutEmpty, header?_eq]
  unfold Hides at reads
  cases hvalues : request.valuesOf name with
  | nil => rfl
  | cons value values =>
    rw [hvalues] at reads
    by_cases hempty : value = ""
    · subst hempty
      have hnone : ("" :: values).find? (· ≠ "") = none := by
        rw [List.find?_eq_none]
        intro later hlater hsays
        exact reads ⟨rfl, later, hlater, by simpa using hsays⟩
      rw [hnone]
      rfl
    · simp [Option.filter_some, hempty]

/-! ## The law -/

theorem compile_withoutEmpty {kind : StatementKind}
    (reads : ∀ name ∈ kind.headerNames, ¬ request.Hides name) (known : Option (List String))
    (table : String) :
    request.withoutEmpty.compile known kind table = request.compile known kind table := by
  apply compile_of_same_readings
  · rfl
  · intro _
    rfl
  · intro key _
    rfl
  · intro name hname
    exact header?_withoutEmpty_of_not_hides (reads name hname)

theorem page_withoutEmpty (reads : ¬ request.Hides rangeName) :
    Page.ofRequest request.withoutEmpty = Page.ofRequest request :=
  Page.ofRequest_congr (header?_withoutEmpty_of_not_hides reads) rfl rfl

/-- Empty headers count as absent unless they hide a value. A header is the same without the empty
ones if and only if the first of its name does not hide a later value. Where it does, there is no
header of the name, and without the empty ones there is. A statement is the same where no header
that its kind reads is hidden, and so are the page and the range of a response where the header of
ranges is not. -/
theorem empty_headers_count_as_absent_unless_they_hide_a_value (request : Request) :
    (∀ name, request.withoutEmpty.header? name = request.header? name ↔ ¬ request.Hides name) ∧
    (∀ name, request.Hides name →
      request.header? name = none ∧
        ∃ value ∈ request.valuesOf name, value ≠ "" ∧
          request.withoutEmpty.header? name = some value) ∧
    (∀ known kind table, (∀ name ∈ kind.headerNames, ¬ request.Hides name) →
      request.withoutEmpty.compile known kind table = request.compile known kind table) ∧
    (¬ request.Hides rangeName →
      Page.ofRequest request.withoutEmpty = Page.ofRequest request ∧
        ∀ total, Page.contentRangeOf? request.withoutEmpty total =
          Page.contentRangeOf? request total) := by
  refine ⟨fun name => ⟨fun hsame hides => ?_, header?_withoutEmpty_of_not_hides⟩,
    fun name hides => ⟨hides.header?_eq_none, hides.header?_withoutEmpty⟩,
    fun known kind table reads => compile_withoutEmpty reads known table,
    fun reads => ⟨page_withoutEmpty reads, fun total => ?_⟩⟩
  · obtain ⟨value, _, _, hvalue⟩ := hides.header?_withoutEmpty
    rw [hvalue, hides.header?_eq_none] at hsame
    cases hsame
  · rw [Page.contentRangeOf?, Page.contentRangeOf?, page_withoutEmpty reads]

/-- An empty range hides a range that comes after it, and all rows are read. -/
theorem an_empty_range_hides_a_range :
    ¬ ∀ (request : Request) (name : String) (known : Option (List String)) (table : String),
      request.withoutEmpty.header? name = request.header? name ∧
        request.withoutEmpty.compile known .select table =
          request.compile known .select table := by
  intro always
  have hboth := always { headers := [("range", ""), ("range", "0-9")] } rangeName none "test"
  have htext := congrArg (fun made => made.toOption.map Statement.text) hboth.2
  exact absurd htext (by decide +kernel)

end Request

end TableGateway
