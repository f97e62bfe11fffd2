import TableGateway.Auth.Token
import TableGateway.Proofs.Reading
import TableGateway.Proofs.Records

-- The laws of token headers. The algorithm that a header is read to name stands in it as a JSON
-- value at one place, and no header declares two algorithms.

namespace TableGateway

open Fallible

namespace Json

/-! ## Values at a place -/

/-- A value that is passed over, as the text that starts with it. -/
def readPlace : Reading (List UInt8) := fun text => do
  let ((), rest) ← passOver text
  .ok (text, rest)

/-- A text starts with a value. -/
def StartsWith (text : List UInt8) (value : Value) : Prop :=
  ∃ rest, readValue maxDepth text = .ok (value, rest)

theorem StartsWith.unique {text : List UInt8} {value value' : Value} (h : StartsWith text value)
    (h' : StartsWith text value') : value = value' := by
  obtain ⟨rest, h⟩ := h
  obtain ⟨rest', h'⟩ := h'
  exact (Prod.mk.inj (Except.ok.inj (h.symm.trans h'))).1

theorem readPlace_of_passOver {text rest : List UInt8} (h : passOver text = .ok ((), rest)) :
    readPlace text = .ok (text, rest) := by
  unfold readPlace
  rw [h]
  rfl

theorem covers_readPlace : Covers passOver readPlace := by
  intro text place rest h
  obtain ⟨⟨_, left⟩, hpass, h⟩ := bind_eq_ok.mp h
  cases h
  exact hpass

theorem readWord_eq {α : Type} (result : α) {word text rest : List UInt8}
    (h : readWord () word text = .ok ((), rest)) :
    readWord result word text = .ok (result, rest) := by
  induction word generalizing text with
  | nil =>
    cases h
    rfl
  | cons w word ih =>
    cases text with
    | nil => cases h
    | cons b text =>
      unfold readWord at h ⊢
      split_ifs at h ⊢
      exact ih h

/-- A string is read as a value where its opening quote is the next mark. -/
theorem readNested_of_string {arranged : List (String × Value) → Members} {depth : Nat}
    {text inner rest : List UInt8} {s : String} (hmark : skipSpace text = Text.byte '"' :: inner)
    (h : readString inner = .ok (s, rest)) :
    readNested arranged depth text = .ok (.string s, rest) := by
  rw [readNested_of_scalar hmark (by decide) (by decide)]
  simp only [readScalar, if_neg (show Text.byte '"' ≠ Text.byte 'n' by decide),
    if_neg (show Text.byte '"' ≠ Text.byte 't' by decide),
    if_neg (show Text.byte '"' ≠ Text.byte 'f' by decide), if_true, h]
  rfl

/-- Null is read as a value where its first letter is the next mark. -/
theorem readNested_of_null {arranged : List (String × Value) → Members} {depth : Nat}
    {text inner rest : List UInt8} (hmark : skipSpace text = Text.byte 'n' :: inner)
    (h : readWord () (Text.bytes "ull") inner = .ok ((), rest)) :
    readNested arranged depth text = .ok (.null, rest) := by
  rw [readNested_of_scalar hmark (by decide) (by decide)]
  simp only [readScalar, if_true, readWord_eq _ h]

/-! ## Texts, lists and options that are passed over -/

theorem covers_readText (depth : Nat) : Covers (passWithin (depth + 1)) readText := by
  intro text s rest h
  refine covers_readNested id depth text (.string s) rest ?_
  unfold readText at h
  split at h
  · cases h
  · rename_i b inner hmark
    split_ifs at h with hquote
    · exact readNested_of_string (by rw [hmark, hquote]) h
    · exact absurd h refuse_ne_ok

theorem covers_readOptional {α : Type} {depth : Nat} {reading : Reading α}
    (covers : Covers (passWithin (depth + 1)) reading) :
    Covers (passWithin (depth + 1)) (readOptional reading) := by
  intro text found rest h
  unfold readOptional at h
  split at h
  · cases h
  · rename_i b inner hmark
    split_ifs at h with hnull
    · refine covers_readNested id depth text .null rest ?_
      exact readNested_of_null (by rw [hmark, hnull]) (covers_readWord _ _ _ _ _ h)
    · obtain ⟨⟨a, left⟩, hread, h⟩ := bind_eq_ok.mp h
      cases h
      rw [← passesBlanks_passWithin, hmark]
      exact covers _ _ _ hread

theorem covers_readTexts (depth inner : Nat) :
    Covers (passWithin (depth + 2)) (readList (fun _ => readText) (inner + 1)) := by
  intro text found rest h
  unfold readList at h
  split at h
  · cases h
  · rename_i b tail hmark
    split_ifs at h with hopen
    · simp only [passWithin, hmark, if_pos hopen]
      exact covers_readArray (passesBlanks_passWithin _) (covers_readText depth) _ _ _ h
    · exact absurd h refuse_ne_ok

end Json

theorem WebKey.covers_read (depth : Nat) :
    Json.Covers (Json.passWithin (depth + 2)) (WebKey.read depth) := by
  intro text found rest h
  unfold WebKey.read at h
  split at h
  · cases h
  · rename_i b inner hmark
    split_ifs at h with hopen
    · obtain ⟨⟨members, left⟩, hmembers, h⟩ := bind_eq_ok.mp h
      simp only at h
      split at h
      · cases h
        simp only [Json.passWithin, hmark, if_neg (show b ≠ Text.byte '[' by rw [hopen]; decide),
          if_pos hopen]
        exact Json.covers_readObject (Json.covers_readNested id depth) _ _ _ hmembers
      · cases h
    · exact absurd h Json.refuse_ne_ok

/-! ## Names of algorithms -/

namespace Algorithm

/-- A value names an algorithm: it is a string with its name, or an object with its name alone,
which holds null. -/
inductive IsNamedBy (algorithm : Algorithm) : Json.Value → Prop where
  | text : IsNamedBy algorithm (.string algorithm.name)
  | object : IsNamedBy algorithm (.object [(algorithm.name, .null)])

theorem ofName?_name (algorithm : Algorithm) : ofName? algorithm.name = some algorithm := by
  cases algorithm <;> decide

theorem name_of_ofName? {name : String} {algorithm : Algorithm}
    (h : ofName? name = some algorithm) : name = algorithm.name := by
  have hname : algorithm.name = name := by simpa using List.find?_some h
  exact hname.symm

theorem IsNamedBy.unique {algorithm algorithm' : Algorithm} {value : Json.Value}
    (h : algorithm.IsNamedBy value) (h' : algorithm'.IsNamedBy value) : algorithm = algorithm' := by
  have hname : algorithm.name = algorithm'.name := by
    cases h with
    | text =>
      generalize hvalue : Json.Value.string algorithm.name = value at h'
      cases h' with
      | text => exact Json.Value.string.inj hvalue
      | object => cases hvalue
    | object =>
      generalize hvalue : Json.Value.object [(algorithm.name, .null)] = value at h'
      cases h' with
      | text => cases hvalue
      | object => simpa using hvalue
  have hsome := ofName?_name algorithm
  rw [hname, ofName?_name algorithm'] at hsome
  exact (Option.some.inj hsome).symm

theorem readName_eq_ok {text rest : List UInt8} {algorithm : Algorithm}
    (h : readName text = .ok (algorithm, rest)) :
    Json.readString text = .ok (algorithm.name, rest) := by
  obtain ⟨⟨name, left⟩, hname, h⟩ := bind_eq_ok.mp h
  simp only at h
  split at h
  · rename_i found hfound
    cases h
    rw [hname, name_of_ofName? hfound]
  · cases h

theorem readMemberName_eq_ok {text rest : List UInt8} {algorithm : Algorithm}
    (h : readMemberName text = .ok (algorithm, rest)) :
    ∃ inner, Json.skipSpace text = Text.byte '"' :: inner ∧
      Json.readString inner = .ok (algorithm.name, rest) := by
  unfold readMemberName at h
  split at h
  · cases h
  · rename_i b inner hmark
    split_ifs at h with hquote
    exact ⟨inner, by rw [hmark, hquote], readName_eq_ok h⟩

/-- An object that names an algorithm has one member, which is null. -/
theorem readObject_of_readMember {text rest : List UInt8} {algorithm : Algorithm} (depth : Nat)
    (h : readMember text = .ok (algorithm, rest)) :
    Json.readObject (Json.readValue depth) text = .ok ([(algorithm.name, .null)], rest) := by
  obtain ⟨⟨found, named⟩, hname, h⟩ := bind_eq_ok.mp h
  obtain ⟨⟨_, valued⟩, hcolon, h⟩ := bind_eq_ok.mp h
  obtain ⟨inner, hmark, hname⟩ := readMemberName_eq_ok hname
  simp only at hcolon h
  split at h
  · cases h
  · rename_i b tail hfirst
    split_ifs at h with hn
    · obtain ⟨⟨_, after⟩, hnull, h⟩ := bind_eq_ok.mp h
      have hvalue : Json.readValue depth valued = .ok (.null, after) :=
        Json.readNested_of_null (by rw [hfirst, hn]) hnull
      have hmember : Json.readMember (Json.readValue depth) inner =
          .ok ((found.name, .null), after) := by
        simp only [Json.readMember, hname, hcolon, hvalue, bind, Except.bind]
      simp only at h
      split at h
      · cases h
      · rename_i c last hlast
        split_ifs at h with hclose
        cases h
        simp only [Json.readObject, hmark,
          if_neg (show Text.byte '"' ≠ Text.byte Json.closeBrace by decide), if_true,
          Json.readMembers, hmember, bind, Except.bind, hlast, if_pos hclose]
        rfl
    · obtain ⟨_, hrefuse, _⟩ := bind_eq_ok.mp h
      exact absurd hrefuse Json.refuse_ne_ok

/-- An algorithm is read from a value that names it. -/
theorem readValue_of_read {text rest : List UInt8} {algorithm : Algorithm} (depth : Nat)
    (h : Algorithm.read text = .ok (algorithm, rest)) :
    ∃ value, algorithm.IsNamedBy value ∧ Json.readValue (depth + 1) text = .ok (value, rest) := by
  unfold Algorithm.read at h
  split at h
  · cases h
  · rename_i b inner hmark
    split_ifs at h with hquote hopen
    · exact ⟨_, .text, Json.readNested_of_string (by rw [hmark, hquote]) (readName_eq_ok h)⟩
    · refine ⟨_, .object, ?_⟩
      have hobject := readObject_of_readMember depth h
      unfold Json.readValue at hobject ⊢
      simp only [Json.readNested, Json.readWith, hmark,
        if_neg (show b ≠ Text.byte '[' by rw [hopen]; decide), if_pos hopen, hobject]
      rfl

end Algorithm

/-! ## Headers -/

namespace Token

/-- The bytes of a header declare an algorithm: they are an object with one member for it, or an
array with it as the second of ten items. Its value names the algorithm. -/
inductive Declares (bytes : List UInt8) (algorithm : Algorithm) : Prop where
  | object {members : List (String × List UInt8)} {place : List UInt8} {value : Json.Value}
      (reads : Json.readAll (Json.readContent Json.readPlace) bytes = .ok (.members members))
      (only : Json.Schema.membersOf "alg" members = [("alg", place)])
      (starts : Json.StartsWith place value) (named : algorithm.IsNamedBy value)
  | array {items : List (List UInt8)} {place : List UInt8} {value : Json.Value}
      (reads : Json.readAll (Json.readContent Json.readPlace) bytes = .ok (.items items))
      (ten : items.length = 10) (second : items[1]? = some place)
      (starts : Json.StartsWith place value) (named : algorithm.IsNamedBy value)

/-- A header declares one algorithm at most. -/
theorem Declares.unique {bytes : List UInt8} {algorithm algorithm' : Algorithm}
    (h : Declares bytes algorithm) (h' : Declares bytes algorithm') : algorithm = algorithm' := by
  cases h with
  | object reads only starts named =>
    cases h' with
    | object reads' only' starts' named' =>
      cases Json.Content.members.inj (Except.ok.inj (reads.symm.trans reads'))
      cases only.symm.trans only'
      cases starts.unique starts'
      exact named.unique named'
    | array reads' _ _ _ _ => cases reads.symm.trans reads'
  | array reads _ second starts named =>
    cases h' with
    | object reads' _ _ _ => cases reads.symm.trans reads'
    | array reads' _ second' starts' named' =>
      cases Json.Content.items.inj (Except.ok.inj (reads.symm.trans reads'))
      cases second.symm.trans second'
      cases starts.unique starts'
      exact named.unique named'

/-- The algorithm that stands at a place. -/
def algorithmAt (place : List UInt8) : Option Algorithm :=
  (Algorithm.read place).toOption.map Prod.fst

theorem starts_of_algorithmAt {place : List UInt8} {algorithm : Algorithm}
    (h : algorithmAt place = some algorithm) :
    ∃ value, Json.StartsWith place value ∧ algorithm.IsNamedBy value := by
  obtain ⟨⟨found, rest⟩, hread, rfl⟩ := toOption_map_eq_some.mp h
  obtain ⟨value, named, hvalue⟩ := Algorithm.readValue_of_read 126 hread
  exact ⟨value, ⟨rest, hvalue⟩, named⟩

/-- What a field of a header reads is passed over, and changes the algorithm if it is the one of
the algorithm. -/
def Fits (f : Json.Field (Option Algorithm)) : Prop :=
  ∀ text change rest, f.read text = .ok (change, rest) →
    Json.passOver text = .ok ((), rest) ∧
      change = Json.Schema.only "alg" algorithmAt f.name text

theorem fits_unused {α : Type} {name : String} {reading : Json.Reading α} (other : name ≠ "alg")
    (covers : Json.Covers Json.passOver reading) : Fits (unused name reading) := by
  intro text change rest h
  obtain ⟨⟨a, left⟩, hread, h⟩ := bind_eq_ok.mp h
  cases h
  refine ⟨covers _ _ _ hread, ?_⟩
  funext record
  exact (if_neg other).symm

theorem fits_algorithmField : Fits algorithmField := by
  intro text change rest h
  obtain ⟨⟨algorithm, left⟩, hread, h⟩ := bind_eq_ok.mp h
  cases h
  obtain ⟨value, _, hvalue⟩ := Algorithm.readValue_of_read 126 hread
  refine ⟨(Json.covers_readNested _ _).passOver _ _ _ hvalue, ?_⟩
  funext record
  simp [Json.Schema.only, algorithmField, algorithmAt, hread, Except.toOption]

theorem fits_headerField {f : Json.Field (Option Algorithm)} (h : f ∈ headerSchema.fields) :
    Fits f := by
  have text {name : String} (other : name ≠ "alg") : Fits (unusedText name) :=
    fits_unused other (Json.covers_readOptional (Json.covers_readText 0)).passOver
  have texts {name : String} (other : name ≠ "alg") : Fits (unusedTexts name) :=
    fits_unused other (Json.covers_readOptional (Json.covers_readTexts 0 126)).passOver
  have key : Fits keyField :=
    fits_unused (by decide) (Json.covers_readOptional (WebKey.covers_read _)).passOver
  simp only [headerSchema, List.mem_cons, List.not_mem_nil, or_false] at h
  rcases h with rfl | rfl | rfl | rfl | rfl | rfl | rfl | rfl | rfl | rfl
  · exact text (by decide)
  · exact fits_algorithmField
  · exact text (by decide)
  · exact text (by decide)
  · exact key
  · exact text (by decide)
  · exact text (by decide)
  · exact texts (by decide)
  · exact text (by decide)
  · exact text (by decide)

/-- Headers are read place by place. -/
theorem reads_header :
    headerSchema.ReadBy Json.readPlace False (Json.Schema.only "alg" algorithmAt) := by
  refine Json.Schema.readBy_only Json.covers_readPlace ?_ rfl ?_ ?_
  · intro f hf
    simp only [headerSchema, List.mem_cons, List.not_mem_nil, or_false] at hf
    rcases hf with rfl | rfl | rfl | rfl | rfl | rfl | rfl | rfl | rfl | rfl <;> rfl
  · intro f hf text change rest h _
    obtain ⟨hpass, rfl⟩ := fits_headerField hf _ _ _ h
    rw [Json.readPlace_of_passOver hpass]
    exact ⟨rfl, rfl⟩
  · intro text rest hpass
    rw [Json.readPlace_of_passOver hpass]
    exact rfl

/-- The algorithm that a header is read to name is the one that it declares. -/
theorem declares_of_algorithm {header : String} {bytes : List UInt8} {algorithm : Algorithm}
    (hbytes : partBytes header = .ok bytes) (h : Token.algorithm header = .ok (some algorithm)) :
    Declares bytes algorithm := by
  obtain ⟨bytes', hbytes', h⟩ := bind_eq_ok.mp h
  cases hbytes.symm.trans hbytes'
  obtain ⟨rest, hread, hend⟩ := Json.readAll_eq_ok.mp (mapError_eq_ok.mp h)
  obtain ⟨⟨content, _⟩, hcontent, rfl, hholds⟩ :=
    (Json.Schema.gives_readContent reads_header hread).exists_ok
  have reads : Json.readAll (Json.readContent Json.readPlace) bytes = .ok content :=
    Json.readAll_eq_ok.mpr ⟨_, hcontent, hend⟩
  generalize hrecord : some algorithm = record at hholds
  cases hholds with
  | @members list once complete =>
    have hmem : "alg" ∈ list.map Prod.fst := complete algorithmField (by simp [headerSchema]) rfl
    rcases once.membersOf "alg" rfl with hnone | ⟨place, hplace⟩
    · exact absurd hnone (Json.Schema.membersOf_ne_nil hmem)
    · rw [Json.Schema.applied_only, hplace] at hrecord
      obtain ⟨value, starts, named⟩ := starts_of_algorithmAt hrecord.symm
      exact .object reads hplace starts named
  | @items list short complete =>
    have last : headerSchema.fields.getLast? = some (unusedText "x5t#S256") := rfl
    have ten : list.length = 10 := Json.Schema.length_items last rfl short complete
    obtain ⟨place, second⟩ : ∃ place, list[1]? = some place :=
      ⟨_, List.getElem?_eq_getElem (by omega)⟩
    have hname : (headerSchema.fields.map Json.Field.name)[1]? = some "alg" := rfl
    have hplace := Json.Schema.membersOf_zip _ 1 (by decide) hname list
    rw [Json.Schema.applied_only, hplace, second] at hrecord
    obtain ⟨value, starts, named⟩ := starts_of_algorithmAt hrecord.symm
    exact .array reads ten second starts named

end Token

end TableGateway
