import Mathlib.Data.List.Nodup
import TableGateway.Proofs.Nesting

-- The laws of records. A text that is read into a record is an object or an array, and what
-- stands between its brackets makes up the record, one change after another.

namespace TableGateway.Json

open Fallible

/-! ## Allowed failures -/

/-- A step gives a result of a kind, or it fails where that is allowed. -/
def Gives {ε α : Type} (mayFail : Prop) (kind : α → Prop) : Except ε α → Prop
  | .ok a => kind a
  | .error _ => mayFail

namespace Gives

variable {ε α β : Type} {mayFail : Prop} {kind : α → Prop} {step : Except ε α}

theorem bind {other : β → Prop} {next : α → Except ε β} (h : Gives mayFail kind step)
    (hnext : ∀ a, step = .ok a → kind a → Gives mayFail other (next a)) :
    Gives mayFail other (step >>= next) := by
  cases step with
  | error e => exact h
  | ok a => exact hnext a rfl h

theorem mono {other : α → Prop} (h : Gives mayFail kind step) (himp : ∀ a, kind a → other a) :
    Gives mayFail other step := by
  cases step with
  | error e => exact h
  | ok a => exact himp a h

theorem of_ok {a : α} (h : Gives mayFail kind step) (hok : step = .ok a) : kind a := by
  subst hok
  exact h

/-- A step that may not fail gives a result. -/
theorem exists_ok (h : Gives False kind step) : ∃ a, step = .ok a ∧ kind a := by
  cases step with
  | error e => exact h.elim
  | ok a => exact ⟨a, rfl, h⟩

end Gives

/-! ## What stands between brackets -/

/-- What stands between brackets: members with their names, or items. -/
inductive Content (α : Type) where
  | members (list : List (String × α))
  | items (list : List α)

/-- Reads what stands between brackets. -/
def readContent {α : Type} (item : Reading α) : Reading (Content α) := fun text =>
  match skipSpace text with
  | [] => .error ⟨.valueEnds, 0⟩
  | b :: rest =>
    if b = Text.byte openBrace then do
      let (list, rest) ← readObject item rest
      .ok (.members list, rest)
    else if b = Text.byte '[' then do
      let (list, rest) ← readArray item rest
      .ok (.items list, rest)
    else .error ⟨.expectedValue, rest.length⟩

theorem refuse_ne_ok {α : Type} {expected : String} {text : List UInt8} {found : α × List UInt8} :
    refuse expected text ≠ .ok found := by
  intro h
  unfold refuse at h
  split at h
  · cases h
  · split_ifs at h
    obtain ⟨_, _, h⟩ := bind_eq_ok.mp h
    cases h

/-- The next mark of a text ends a value: a comma or a closing bracket. -/
def Closes (text : List UInt8) : Prop :=
  ∃ b rest, skipSpace text = b :: rest ∧
    b ∈ [Text.byte ',', Text.byte ']', Text.byte closeBrace]

namespace Schema

variable {σ α : Type}

/-- A field of the record has this name. -/
def knows (schema : Schema σ) (name : String) : Bool :=
  (schema.field? name).isSome

/-- `item` reads the values of a record: what it leaves is what the record leaves, and `effect`
tells how a value changes the record. -/
structure ReadBy (schema : Schema σ) (item : Reading α) (mayFail : Prop)
    (effect : String → α → σ → σ) : Prop where
  covers : Covers passOver item
  distinct : ∀ f ∈ schema.fields, schema.field? f.name = some f
  value : ∀ name text change rest, schema.readMemberValue name text = .ok (change, rest) →
    Closes rest → Gives mayFail (fun found => found.2 = rest ∧ change = effect name found.1)
      (item text)

/-- The changes of members, from the first to the last. -/
def applied (effect : String → α → σ → σ) (start : σ) (list : List (String × α)) : σ :=
  list.foldl (fun record member => effect member.1 member.2 record) start

/-- No field is named twice, nor one that was seen before. -/
def Once (schema : Schema σ) (seen : List String) (names : List String) : Prop :=
  (names.filter schema.knows).Nodup ∧ ∀ name ∈ names, schema.knows name = true → name ∉ seen

/-- How a content makes up a record: from members of which none is a field twice, and each field
that has to be there is there, or from items for the fields in order. -/
inductive Holds (schema : Schema σ) (effect : String → α → σ → σ) (start : σ) :
    Content α → σ → Prop where
  | members {list : List (String × α)} (once : schema.Once [] (list.map Prod.fst))
      (complete : ∀ f ∈ schema.fields, f.isRequired = true → f.name ∈ list.map Prod.fst) :
      Holds schema effect start (.members list) (applied effect start list)
  | items {list : List α} (short : list.length ≤ schema.fields.length)
      (complete : ∀ f ∈ schema.fields.drop list.length, f.mayEnd = true) :
      Holds schema effect start (.items list)
        (applied effect start ((schema.fields.map Field.name).zip list))

/-! ## Objects -/

section Objects

variable {schema : Schema σ} {item : Reading α} {mayFail : Prop} {effect : String → α → σ → σ}

theorem Once.cons {seen names : List String} {name : String}
    (fresh : ¬(name ∈ seen ∧ (schema.field? name).isSome))
    (rest : schema.Once (name :: seen) names) : schema.Once seen (name :: names) := by
  obtain ⟨hnodup, hseen⟩ := rest
  refine ⟨?_, List.forall_mem_cons.mpr ⟨fun hknown hmem => fresh ⟨hmem, hknown⟩, ?_⟩⟩
  · by_cases hknown : schema.knows name = true
    · rw [List.filter_cons_of_pos hknown, List.nodup_cons]
      refine ⟨fun hmem => ?_, hnodup⟩
      obtain ⟨hmem, _⟩ := List.mem_filter.mp hmem
      exact hseen name hmem hknown List.mem_cons_self
    · rw [List.filter_cons_of_neg hknown]
      exact hnodup
  · intro other hother hknown hmem
    exact hseen other hother hknown (List.mem_cons_of_mem name hmem)

theorem once_nil (seen : List String) : schema.Once seen [] :=
  ⟨List.nodup_nil, nofun⟩

/-- A member that is read into a record is read with the same change. -/
theorem gives_readMember (reads : schema.ReadBy item mayFail effect) {name : String}
    {change : σ → σ} {text named valued rest : List UInt8}
    (hname : readString text = .ok (name, named)) (hcolon : readColon named = .ok ((), valued))
    (hvalue : schema.readMemberValue name valued = .ok (change, rest)) (closes : Closes rest) :
    Gives mayFail (fun found => ∃ a, found = ((name, a), rest) ∧ change = effect name a)
      (Json.readMember item text) := by
  unfold Json.readMember
  rw [hname]
  change Gives mayFail _ (readColon named >>= _)
  rw [hcolon]
  refine (reads.value _ _ _ _ hvalue closes).bind ?_
  rintro ⟨a, _⟩ - ⟨rfl, hchange⟩
  exact ⟨a, rfl, hchange⟩

/-- Members that are read into a record are read one by one with the same changes. -/
theorem gives_readMembers (reads : schema.ReadBy item mayFail effect) {fuel : Nat}
    {seen seen' : List String} {record record' : σ} {read : List (String × α)}
    {text rest : List UInt8}
    (h : schema.readMembers fuel seen record text = .ok ((seen', record'), rest)) :
    Gives mayFail (fun found => found.2 = rest ∧ ∃ list, found.1 = read.reverse ++ list ∧
      record' = applied effect record list ∧ seen' = (list.map Prod.fst).reverse ++ seen ∧
      schema.Once seen (list.map Prod.fst)) (Json.readMembers item fuel read text) := by
  induction fuel generalizing seen record read text with
  | zero => cases h
  | succ fuel ih =>
    obtain ⟨⟨name, named⟩, hname, h⟩ := bind_eq_ok.mp h
    simp only at h
    split_ifs at h with hfresh
    obtain ⟨⟨_, valued⟩, hcolon, h⟩ := bind_eq_ok.mp h
    obtain ⟨⟨change, after⟩, hvalue, h⟩ := bind_eq_ok.mp h
    simp only at h hvalue
    have hmember := gives_readMember reads hname hcolon hvalue
    split at h
    · cases h
    · rename_i b tail hmark
      split_ifs at h with hclose hcomma
      · refine (hmember ⟨b, tail, hmark, by simp [hclose]⟩).bind ?_
        rintro _ - ⟨a, rfl, rfl⟩
        cases h
        simp only [hmark, if_pos hclose]
        exact ⟨rfl, [(name, a)], by simp, rfl, rfl, .cons hfresh (once_nil _)⟩
      · split at h
        · cases h
        · rename_i c next hnext
          split_ifs at h with hquote
          refine (hmember ⟨b, tail, hmark, by simp [hcomma]⟩).bind ?_
          rintro _ - ⟨a, rfl, rfl⟩
          simp only [hmark, hnext, if_neg hclose, if_pos hcomma, if_pos hquote]
          refine (ih h).mono ?_
          rintro found ⟨hrest, list, hlist, rfl, rfl, hlater⟩
          exact ⟨hrest, (name, a) :: list, by simp [hlist], rfl, by simp, hlater.cons hfresh⟩

theorem complete_eq_ok {seen : List String} {record record' : σ} {text rest : List UInt8}
    (h : schema.complete seen record text = .ok (record', rest)) :
    record' = record ∧ rest = text ∧
      ∀ f ∈ schema.fields, f.isRequired = true → f.name ∈ seen := by
  unfold complete at h
  split at h
  · cases h
  · rename_i hnone
    cases h
    refine ⟨rfl, rfl, fun f hf hrequired => ?_⟩
    simpa [hrequired] using List.find?_eq_none.mp hnone f hf

theorem gives_readObject (reads : schema.ReadBy item mayFail effect) {start record : σ}
    {text rest : List UInt8} (h : schema.readObject start text = .ok (record, rest)) :
    Gives mayFail
      (fun found => found.2 = rest ∧ schema.Holds effect start (.members found.1) record)
      (Json.readObject item text) := by
  unfold Schema.readObject at h
  split at h
  · cases h
  · rename_i b inner hmark
    split_ifs at h with hclose hquote
    · obtain ⟨rfl, rfl, hcomplete⟩ := complete_eq_ok h
      simp only [Json.readObject, hmark, if_pos hclose]
      exact ⟨rfl, .members (once_nil _) hcomplete⟩
    · obtain ⟨⟨⟨seen, last⟩, after⟩, hmembers, h⟩ := bind_eq_ok.mp h
      obtain ⟨rfl, rfl, hcomplete⟩ := complete_eq_ok h
      simp only [Json.readObject, hmark, if_neg hclose, if_pos hquote]
      refine (gives_readMembers reads hmembers).mono ?_
      rintro ⟨_, _⟩ ⟨rfl, list, rfl, rfl, rfl, honce⟩
      exact ⟨rfl, .members honce fun f hf hrequired => by simpa using hcomplete f hf hrequired⟩

end Objects

/-! ## Arrays -/

section Arrays

variable {schema : Schema σ} {item : Reading α} {mayFail : Prop} {effect : String → α → σ → σ}

theorem readClosing_eq_ok {record record' : σ} {text rest : List UInt8}
    (h : readClosing record text = .ok (record', rest)) :
    skipSpace text = Text.byte ']' :: rest ∧ record' = record := by
  unfold readClosing at h
  split at h
  · cases h
  · rename_i b tail hmark
    split_ifs at h with hclose
    · cases h
      exact ⟨by rw [hmark, hclose], rfl⟩
    · split at h <;> cases h

/-- Fields end at the closing bracket where all that are left may be left out. -/
theorem readFields_of_closing {index : Nat} {fields : List (Field σ)} {record record' : σ}
    {text tail rest : List UInt8} (hmark : skipSpace text = Text.byte ']' :: tail)
    (h : schema.readFields index fields record text = .ok (record', rest)) :
    record' = record ∧ rest = tail ∧ ∀ f ∈ fields, f.mayEnd = true := by
  induction fields generalizing index text with
  | nil =>
    obtain ⟨hclose, rfl⟩ := readClosing_eq_ok h
    cases hmark.symm.trans hclose
    exact ⟨rfl, rfl, nofun⟩
  | cons f fields ih =>
    simp only [readFields, hmark, if_true] at h
    split_ifs at h with hmay
    obtain ⟨hrecord, hrest, hlater⟩ := ih (by rfl) h
    exact ⟨hrecord, hrest, List.forall_mem_cons.mpr ⟨hmay, hlater⟩⟩

/-- After a field comes the closing bracket, or a comma and the next field. -/
theorem readFields_next {index : Nat} {fields : List (Field σ)} {record record' : σ}
    {text rest : List UInt8}
    (h : schema.readFields (index + 1) fields record text = .ok (record', rest)) :
    (∃ tail, skipSpace text = Text.byte ']' :: tail) ∨
      ∃ f later tail c next change after, fields = f :: later ∧
        skipSpace text = Text.byte ',' :: tail ∧ skipSpace tail = c :: next ∧
        c ≠ Text.byte ']' ∧ f.read (c :: next) = .ok (change, after) ∧
        schema.readFields (index + 1 + 1) later (change record) after = .ok (record', rest) := by
  cases fields with
  | nil =>
    exact .inl ⟨_, (readClosing_eq_ok h).1⟩
  | cons f fields =>
    simp only [readFields] at h
    split at h
    · cases h
    · rename_i b tail hmark
      split_ifs at h with hclose hmay hfirst hcomma
      · exact .inl ⟨tail, by rw [hmark, hclose]⟩
      · exact hfirst.elim
      · split at h
        · cases h
        · rename_i c next hnext
          split_ifs at h with hbracket
          obtain ⟨⟨change, after⟩, hread, h⟩ := bind_eq_ok.mp h
          exact .inr ⟨f, fields, tail, c, next, change, after, rfl, by rw [hmark, hcomma], hnext,
            hbracket, hread, h⟩

theorem closes_of_readFields {index : Nat} {fields : List (Field σ)} {record record' : σ}
    {text rest : List UInt8}
    (h : schema.readFields (index + 1) fields record text = .ok (record', rest)) : Closes text := by
  rcases readFields_next h with ⟨tail, hmark⟩ | ⟨_, _, tail, _, _, _, _, _, hmark, _⟩
  · exact ⟨_, tail, hmark, by simp⟩
  · exact ⟨_, tail, hmark, by simp⟩

/-- Fields that are read into a record are read item by item with the same changes. -/
theorem gives_readItems (reads : schema.ReadBy item mayFail effect) {fields : List (Field σ)}
    {f : Field σ} {index fuel : Nat} {change : σ → σ} {record record' : σ} {read : List α}
    {b : UInt8} {inner after rest : List UInt8} (known : ∀ g ∈ f :: fields, g ∈ schema.fields)
    (hread : f.read (b :: inner) = .ok (change, after))
    (h : schema.readFields (index + 1) fields (change record) after = .ok (record', rest))
    (hfuel : inner.length < fuel) :
    Gives mayFail (fun found => found.2 = rest ∧ ∃ list, found.1 = read.reverse ++ list ∧
      list.length ≤ (f :: fields).length ∧
      (∀ g ∈ (f :: fields).drop list.length, g.mayEnd = true) ∧
      record' = applied effect record (((f :: fields).map Field.name).zip list))
      (Json.readItems item fuel read (b :: inner)) := by
  induction fuel generalizing fields f index change record read b inner after with
  | zero => exact absurd hfuel (Nat.not_lt_zero _)
  | succ fuel ih =>
    obtain ⟨hf, hlater⟩ := List.forall_mem_cons.mp known
    have hfield : schema.readMemberValue f.name (b :: inner) = .ok (change, after) := by
      unfold readMemberValue
      rw [reads.distinct f hf]
      exact hread
    refine (reads.value _ _ _ _ hfield (closes_of_readFields h)).bind ?_
    rintro ⟨a, left⟩ hitem ⟨hrest, hchange⟩
    simp only at hrest hchange
    subst hrest hchange
    have hleft := reads.covers.length_le hitem
    simp only [List.length_cons] at hleft
    rcases readFields_next h with ⟨tail, hmark⟩ | hnext
    · obtain ⟨rfl, rfl, hmay⟩ := readFields_of_closing hmark h
      simp only [hmark, if_true]
      exact ⟨rfl, [a], by simp, by simp, hmay, by simp [applied]⟩
    · obtain ⟨g, later, tail, c, next, change', after', rfl, hcomma, hskip, hbracket, hread', h'⟩ :=
        hnext
      have htail := length_of_skipSpace hcomma
      have hnextLength := length_of_skipSpace hskip
      simp only [hcomma, if_neg (show Text.byte ',' ≠ Text.byte ']' by decide), if_true, hskip,
        if_neg hbracket]
      refine (ih hlater hread' h' (by omega)).mono ?_
      rintro found ⟨hrest, list, hlist, hshort, hmay, rfl⟩
      exact ⟨hrest, a :: list, by simp [hlist], by simpa using hshort, hmay, rfl⟩

theorem holds_noItems (h : ∀ f ∈ schema.fields, f.mayEnd = true) (start : σ) :
    schema.Holds effect start (.items []) start := by
  have hholds : schema.Holds effect start (.items []) (applied effect start
      ((schema.fields.map Field.name).zip [])) := .items (Nat.zero_le _) h
  rwa [List.zip_nil_right] at hholds

theorem gives_readArray (reads : schema.ReadBy item mayFail effect) {start record : σ}
    {text rest : List UInt8}
    (h : schema.readFields 0 schema.fields start text = .ok (record, rest)) :
    Gives mayFail (fun found => found.2 = rest ∧ schema.Holds effect start (.items found.1) record)
      (Json.readArray item text) := by
  by_cases hempty : ∃ tail, skipSpace text = Text.byte ']' :: tail
  · obtain ⟨tail, hmark⟩ := hempty
    obtain ⟨rfl, rfl, hmay⟩ := readFields_of_closing hmark h
    simp only [Json.readArray, hmark, if_true]
    exact ⟨rfl, holds_noItems hmay _⟩
  · cases hfields : schema.fields with
    | nil =>
      rw [hfields] at h
      exact absurd ⟨_, (readClosing_eq_ok h).1⟩ hempty
    | cons f fields =>
      have known : ∀ g ∈ f :: fields, g ∈ schema.fields := fun g hg => hfields ▸ hg
      rw [hfields] at h
      simp only [readFields] at h
      split at h
      · cases h
      · rename_i b inner hmark
        have hopen : b ≠ Text.byte ']' := fun hb => hempty ⟨inner, by rw [hmark, hb]⟩
        rw [if_neg hopen] at h
        simp only [if_true] at h
        obtain ⟨⟨change, after⟩, hread, h⟩ := bind_eq_ok.mp h
        simp only [Json.readArray, hmark, if_neg hopen]
        refine (gives_readItems reads known hread h (Nat.lt_succ_self _)).mono ?_
        rintro ⟨_, _⟩ ⟨rfl, list, rfl, hshort, hmay, rfl⟩
        rw [← hfields] at hshort hmay ⊢
        exact ⟨rfl, .items hshort hmay⟩

/-- A text that is read into a record starts with a bracket. -/
theorem bracket_of_read {start record : σ} {text rest inner : List UInt8} {b : UInt8}
    (h : schema.read start text = .ok (record, rest)) (hmark : skipSpace text = b :: inner) :
    b = Text.byte openBrace ∨ b = Text.byte '[' := by
  simp only [Schema.read, hmark] at h
  split_ifs at h with hobject harray
  · exact .inl hobject
  · exact .inr harray
  · exact absurd h refuse_ne_ok

/-- A text that is read into a record holds an object or an array that makes up the record. -/
theorem gives_readContent (reads : schema.ReadBy item mayFail effect) {start record : σ}
    {text rest : List UInt8} (h : schema.read start text = .ok (record, rest)) :
    Gives mayFail (fun found => found.2 = rest ∧ schema.Holds effect start found.1 record)
      (readContent item text) := by
  unfold Schema.read at h
  split at h
  · cases h
  · rename_i b inner hmark
    simp only [readContent, hmark]
    split_ifs at h ⊢
    · exact (gives_readObject reads h).bind fun found _ hfound => hfound
    · exact (gives_readArray reads h).bind fun found _ hfound => hfound
    · exact absurd h refuse_ne_ok

end Arrays

/-! ## Records of one field -/

section Only

/-- The change by the values of one field, each of which replaces the record. -/
def only (key : String) (made : α → σ) (name : String) (a : α) (record : σ) : σ :=
  if name = key then made a else record

/-- A record of one field is read by what reads the values of all fields and passes over those of
other names. -/
theorem readBy_only {schema : Schema σ} {item : Reading α} {mayFail : Prop} {key : String}
    {made : α → σ} (covers : Covers passOver item)
    (distinct : ∀ f ∈ schema.fields, schema.field? f.name = some f)
    (known : schema.knows key = true)
    (field : ∀ f ∈ schema.fields, ∀ text change rest, f.read text = .ok (change, rest) →
      Closes rest → Gives mayFail
        (fun found => found.2 = rest ∧ change = only key made f.name found.1) (item text))
    (unknown : ∀ text rest, passOver text = .ok ((), rest) →
      Gives mayFail (fun found => found.2 = rest) (item text)) :
    schema.ReadBy item mayFail (only key made) where
  covers := covers
  distinct := distinct
  value := by
    intro name text change rest h closes
    unfold readMemberValue at h
    split at h
    · rename_i f hfield
      obtain rfl : f.name = name := by simpa using List.find?_some hfield
      exact field f (List.mem_of_find?_eq_some hfield) _ _ _ h closes
    · rename_i hfield
      obtain ⟨⟨_, left⟩, hpass, h⟩ := bind_eq_ok.mp h
      cases h
      refine (unknown _ _ hpass).mono fun found hfound => ⟨hfound, ?_⟩
      have other : name ≠ key := by
        rintro rfl
        simp [knows, hfield] at known
      funext record
      exact (if_neg other).symm

/-- The members of a name. -/
def membersOf (key : String) (list : List (String × α)) : List (String × α) :=
  list.filter fun member => member.1 == key

theorem mem_membersOf {key : String} {list : List (String × α)} {member : String × α}
    (h : member ∈ membersOf key list) : member.1 = key := by
  simpa using (List.mem_filter.mp h).2

/-- The last member of a name makes the record. -/
theorem applied_only (key : String) (made : α → σ) (start : σ) (list : List (String × α)) :
    applied (only key made) start list =
      ((membersOf key list).getLast?.map fun member => made member.2).getD start := by
  induction list generalizing start with
  | nil => rfl
  | cons member rest ih =>
    change applied (only key made) (only key made member.1 member.2 start) rest = _
    rw [ih]
    by_cases hkey : member.1 = key
    · have hfilter : membersOf key (member :: rest) = member :: membersOf key rest :=
        List.filter_cons_of_pos (by simpa using hkey)
      rw [hfilter, List.getLast?_cons, only, if_pos hkey]
      cases (membersOf key rest).getLast? <;> rfl
    · have hfilter : membersOf key (member :: rest) = membersOf key rest :=
        List.filter_cons_of_neg (by simpa using hkey)
      rw [hfilter, only, if_neg hkey]

/-- A field is named by no member or by one. -/
theorem Once.membersOf {schema : Schema σ} {seen : List String} {list : List (String × α)}
    (once : schema.Once seen (list.map Prod.fst)) (key : String)
    (known : schema.knows key = true) :
    Schema.membersOf key list = [] ∨ ∃ a, Schema.membersOf key list = [(key, a)] := by
  have hcount : (Schema.membersOf key list).length ≤ 1 := by
    have hle := List.nodup_iff_count_le_one.mp once.1 key
    rw [List.count_filter known, List.count_eq_countP, List.countP_map] at hle
    rwa [Schema.membersOf, ← List.countP_eq_length_filter]
  cases hlist : Schema.membersOf key list with
  | nil => exact .inl rfl
  | cons member rest =>
    rw [hlist] at hcount
    obtain rfl : rest = [] := by simpa using hcount
    obtain rfl : member.1 = key := mem_membersOf (hlist ▸ List.mem_cons_self)
    exact .inr ⟨member.2, rfl⟩

theorem membersOf_eq_nil {key : String} {list : List (String × α)}
    (h : key ∉ list.map Prod.fst) : membersOf key list = [] := by
  refine List.filter_eq_nil_iff.mpr fun member hmember hkey => h ?_
  exact List.mem_map.mpr ⟨member, hmember, by simpa using hkey⟩

theorem membersOf_ne_nil {key : String} {list : List (String × α)}
    (h : key ∈ list.map Prod.fst) : membersOf key list ≠ [] := by
  obtain ⟨member, hmember, hname⟩ := List.mem_map.mp h
  exact List.ne_nil_of_mem (List.mem_filter.mpr ⟨hmember, by simpa using hname⟩)

/-- The item at the place of a name is the only member of this name. -/
theorem membersOf_zip (names : List String) (index : Nat) {key : String} (distinct : names.Nodup)
    (hname : names[index]? = some key) (list : List α) :
    membersOf key (names.zip list) = (list[index]?.map fun a => (key, a)).toList := by
  induction names generalizing index list with
  | nil => cases hname
  | cons name names ih =>
    obtain ⟨hfresh, hrest⟩ := List.nodup_cons.mp distinct
    cases list with
    | nil => rfl
    | cons a list =>
      cases index with
      | zero =>
        obtain rfl : name = key := Option.some.inj hname
        have hnone : membersOf name (names.zip list) = [] := by
          refine membersOf_eq_nil fun hmem => hfresh ?_
          obtain ⟨⟨_, b⟩, hpair, rfl⟩ := List.mem_map.mp hmem
          exact (List.of_mem_zip hpair).1
        rw [List.zip_cons_cons, membersOf, List.filter_cons_of_pos (by simp)]
        exact congrArg _ hnone
      | succ index =>
        have hkey : key ∈ names := List.mem_of_getElem? hname
        have other : name ≠ key := fun heq => hfresh (heq ▸ hkey)
        rw [List.zip_cons_cons, membersOf, List.filter_cons_of_neg (by simpa using other)]
        exact ih index hrest hname list

/-- Where the last field has to be there, there is an item for each field. -/
theorem length_items {schema : Schema σ} {f : Field σ} {list : List α}
    (last : schema.fields.getLast? = some f) (needed : f.mayEnd = false)
    (short : list.length ≤ schema.fields.length)
    (complete : ∀ f ∈ schema.fields.drop list.length, f.mayEnd = true) :
    list.length = schema.fields.length := by
  refine Nat.le_antisymm short (Nat.le_of_not_lt fun hlt => ?_)
  have hlast : (schema.fields.drop list.length).getLast? = some f := by
    rw [List.getLast?_drop, if_neg (Nat.not_le_of_lt hlt), last]
  have hmay := complete f (List.mem_of_getLast? hlast)
  rw [needed] at hmay
  cases hmay

end Only

end Schema

end TableGateway.Json
