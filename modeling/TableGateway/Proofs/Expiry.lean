import Mathlib.Algebra.Order.Round
import Mathlib.Data.Rat.Floor
import Mathlib.Tactic.Positivity
import TableGateway.Proofs.Headers

-- The laws of expiry. Claims are read as a JSON value first, and the moment at which they expire
-- is the nearest second of the number that stands in that value.

namespace TableGateway

open Fallible

/-! ## Values of numbers -/

/-- The value of a number in binary. -/
def Decimal.Binary.value (b : Decimal.Binary) : ℚ :=
  (if b.negative then -1 else 1) * (b.magnitude * 2 ^ b.exponent)

/-- The value of a number. Infinities and not-a-number have none. -/
def Json.Number.value? : Json.Number → Option ℚ
  | .whole n => some n
  | .float bits => (Decimal.binary? bits).map Decimal.Binary.value

theorem Decimal.Fraction.ofScaled_bottom_pos (n : Nat) (exponent : Int) :
    0 < (Fraction.ofScaled n exponent).bottom := by
  unfold ofScaled
  split_ifs
  · exact Nat.one_pos
  · exact Nat.two_pow_pos _

theorem Decimal.Fraction.ofScaled_eq (n : Nat) (exponent : Int) :
    ((Fraction.ofScaled n exponent).top : ℚ) / (Fraction.ofScaled n exponent).bottom =
      n * 2 ^ exponent := by
  unfold ofScaled
  split_ifs with h
  · obtain ⟨k, rfl⟩ := Int.eq_ofNat_of_zero_le h
    simp
  · obtain ⟨k, hk⟩ := Int.eq_ofNat_of_zero_le (show 0 ≤ -exponent by omega)
    obtain rfl : exponent = -(k : Int) := by omega
    simp [div_eq_mul_inv]

/-- A number in binary that is not below zero is its magnitude, scaled. -/
theorem Decimal.Binary.value_eq {b : Decimal.Binary} (h : 0 ≤ b.value) :
    ¬(b.negative = true ∧ b.magnitude ≠ 0) ∧ b.value = b.magnitude * 2 ^ b.exponent := by
  have hpow : (0 : ℚ) < 2 ^ b.exponent := zpow_pos two_pos b.exponent
  unfold value at h ⊢
  cases hsign : b.negative with
  | false => simp
  | true =>
    simp only [hsign, if_true, neg_one_mul, Left.nonneg_neg_iff] at h
    have hzero : b.magnitude = 0 := by
      by_contra hne
      have : (0 : ℚ) < b.magnitude * 2 ^ b.exponent := by positivity
      linarith
    simp [hzero]

/-! ## Moments -/

namespace Token

/-- The nearest whole number, with a half going up. -/
theorem nearest_eq {f : Decimal.Fraction} (h : 0 < f.bottom) :
    (nearest f : ℤ) = round ((f.top : ℚ) / f.bottom) := by
  have hne : (f.bottom : ℚ) ≠ 0 := by exact_mod_cast h.ne'
  have hhalf : (f.top : ℚ) / f.bottom + 1 / 2 =
      ((2 * f.top + f.bottom : Nat) : ℚ) / ((2 * f.bottom : Nat) : ℚ) := by
    push_cast
    field_simp
  rw [round_eq, hhalf, Rat.floor_natCast_div_natCast]
  rfl

/-- A number that is not below zero and has sixty-four bits names the nearest second. -/
theorem moment?_eq {n : Json.Number} {q : ℚ} (hvalue : n.value? = some q) (low : 0 ≤ q)
    (high : q < 2 ^ 64) : ∃ moment, moment? n = some moment ∧ (moment : ℤ) = round q := by
  cases n with
  | whole n =>
    obtain rfl : (n : ℚ) = q := Option.some.inj hvalue
    have hn : 0 ≤ n := by exact_mod_cast low
    exact ⟨n.toNat, if_pos hn, by simp [hn]⟩
  | float bits =>
    obtain ⟨b, hb, rfl⟩ := Option.map_eq_some_iff.mp hvalue
    obtain ⟨hsign, heq⟩ := Decimal.Binary.value_eq low
    have hpos := Decimal.Fraction.ofScaled_bottom_pos b.magnitude b.exponent
    have hq := (Decimal.Fraction.ofScaled_eq b.magnitude b.exponent).trans heq.symm
    refine ⟨nearest (.ofScaled b.magnitude b.exponent), ?_, ?_⟩
    · simp only [moment?, hb, if_neg hsign]
      refine if_pos ?_
      rw [← hq, div_lt_iff₀ (by exact_mod_cast hpos)] at high
      have hbound : (Json.maxUInt64 + 1 : Nat) = 2 ^ 64 := rfl
      rw [hbound]
      exact_mod_cast high
    · rw [nearest_eq hpos, hq]

end Token

/-! ## Members by name -/

namespace Json

theorem Members.get?_insert (key : String) (value : Value) (members : Members) (name : String) :
    (insert key value members).get? name =
      if key = name then some value else members.get? name := by
  induction members with
  | nil => by_cases h : key = name <;> simp [insert, get?, h]
  | cons member rest ih =>
    obtain ⟨other, v⟩ := member
    unfold insert
    split_ifs with hsame hname hbefore hname hname
    · simp [get?, hname]
    · simp [get?, ← hsame, hname]
    · simp [get?, hname]
    · simp [get?, hname]
    · have hother : other ≠ name := fun h => hsame (hname.trans h.symm)
      rw [if_pos hname] at ih
      simpa [get?, hother] using ih
    · rw [if_neg hname] at ih
      by_cases hother : other = name
      · simp [get?, hother]
      · simpa [get?, hother] using ih

/-- The value of a name is that of the last member with this name. -/
theorem Members.get?_ofList (list : List (String × Value)) (name : String) :
    (ofList list).get? name = (Schema.membersOf name list).getLast?.map Prod.snd := by
  induction list using List.reverseRecOn with
  | nil => rfl
  | append_singleton list member ih =>
    have hlist : ofList (list ++ [member]) = insert member.1 member.2 (ofList list) := by
      simp [ofList]
    rw [hlist, get?_insert, ih]
    by_cases h : member.1 = name
    · simp [Schema.membersOf, h]
    · simp [Schema.membersOf, h]

/-- No value starts where another one ends. -/
theorem not_closes_of_read {arranged : List (String × Value) → Members} {depth : Nat}
    {text rest : List UInt8} {value : Value}
    (h : readNested arranged depth text = .ok (value, rest)) : ¬Closes text := by
  rintro ⟨b, inner, hmark, hb⟩
  simp only [List.mem_cons, List.not_mem_nil, or_false] at hb
  rcases hb with rfl | rfl | rfl <;>
    · rw [readNested_of_scalar hmark (by decide) (by decide)] at h
      cases h

theorem closes_cons {text rest : List UInt8} {b : UInt8} (hmark : skipSpace text = b :: rest)
    (hb : b ∈ [Text.byte ',', Text.byte ']', Text.byte closeBrace]) : Closes (b :: rest) :=
  ⟨b, rest, by rw [← hmark, skipSpace_skipSpace], hb⟩

theorem mem_of_closes_cons {text rest : List UInt8} {b : UInt8} (hmark : skipSpace text = b :: rest)
    (h : Closes (b :: rest)) : b ∈ [Text.byte ',', Text.byte ']', Text.byte closeBrace] := by
  obtain ⟨c, after, hskip, hc⟩ := h
  rw [← hmark, skipSpace_skipSpace, hmark] at hskip
  cases hskip
  exact hc

end Json

/-! ## Claims -/

namespace Token

/-- The moment that a value names. Only numbers name one. -/
def momentOf : Json.Value → Option Nat
  | .number n => moment? n
  | _ => none

section Reading

variable {arranged : List (String × Json.Value) → Json.Members} {depth : Nat} {b : UInt8}
  {text inner rest left : List UInt8} {value : Json.Value} {moment : Option Nat}

/-- Of an array a moment reads only the bracket, which is right only where nothing is in it. -/
theorem moment_of_array (hmark : Json.skipSpace text = b :: inner) (array : b = Text.byte '[')
    (h : readMoment text = .ok (moment, rest)) (closes : Json.Closes rest)
    (hvalue : Json.readNested arranged depth text = .ok (value, left)) :
    left = rest ∧ moment = momentOf value := by
  simp only [readMoment, hmark, if_pos array] at h
  cases depth with
  | zero =>
    simp only [Json.readNested, Json.readWith, hmark, if_pos array] at hvalue
    cases hvalue
  | succ depth =>
    simp only [Json.readNested, Json.readWith, hmark, if_pos array] at hvalue
    obtain ⟨⟨items, after⟩, hitems, hvalue⟩ := bind_eq_ok.mp hvalue
    cases hvalue
    unfold Json.readArray at hitems
    split at hitems
    · cases hitems
    · rename_i c tail hnext
      simp only [hnext] at h
      cases h
      split_ifs at hitems with hclose
      · cases hitems
        simp [hclose, momentOf]
      · obtain ⟨_, hitem, _⟩ := bind_eq_ok.mp hitems
        have hopen := Json.not_closes_of_read hitem
        split_ifs at closes with hskip
        · obtain rfl := hskip.resolve_left hclose
          exact absurd (Json.closes_cons hnext (by simp)) hopen
        · exact absurd closes hopen

/-- Of an object a moment reads only the brace, which is right only where nothing is in it. -/
theorem moment_of_object (hmark : Json.skipSpace text = b :: inner)
    (object : b = Text.byte Json.openBrace) (h : readMoment text = .ok (moment, rest))
    (closes : Json.Closes rest)
    (hvalue : Json.readNested arranged depth text = .ok (value, left)) :
    left = rest ∧ moment = momentOf value := by
  have array : b ≠ Text.byte '[' := by
    rw [object]
    decide
  simp only [readMoment, hmark, if_neg array, if_pos object] at h
  cases depth with
  | zero =>
    simp only [Json.readNested, Json.readWith, hmark, if_neg array, if_pos object] at hvalue
    cases hvalue
  | succ depth =>
    simp only [Json.readNested, Json.readWith, hmark, if_neg array, if_pos object] at hvalue
    obtain ⟨⟨members, after⟩, hmembers, hvalue⟩ := bind_eq_ok.mp hvalue
    cases hvalue
    unfold Json.readObject at hmembers
    split at hmembers
    · cases hmembers
    · rename_i c tail hnext
      simp only [hnext] at h
      cases h
      split_ifs at hmembers with hclose hquote
      · cases hmembers
        simp [hclose, momentOf]
      · rw [if_neg hclose] at closes
        have hmem := Json.mem_of_closes_cons hnext closes
        rw [hquote] at hmem
        exact absurd hmem (by decide)

/-- A moment is read from a value where what follows it ends a value. -/
theorem moment_of_read (h : readMoment text = .ok (moment, rest)) (closes : Json.Closes rest)
    (hvalue : Json.readNested arranged depth text = .ok (value, left)) :
    left = rest ∧ moment = momentOf value := by
  cases hmark : Json.skipSpace text with
  | nil =>
    simp only [readMoment, hmark] at h
    cases h
  | cons b inner =>
    by_cases array : b = Text.byte '['
    · exact moment_of_array hmark array h closes hvalue
    · by_cases object : b = Text.byte Json.openBrace
      · exact moment_of_object hmark object h closes hvalue
      · rw [Json.readNested_of_scalar hmark array object] at hvalue
        simp only [readMoment, hmark, if_neg array, if_neg object] at h
        obtain ⟨⟨found, after⟩, hscalar, h⟩ := bind_eq_ok.mp h
        cases hscalar.symm.trans hvalue
        cases value <;> cases h <;> exact ⟨rfl, rfl⟩

/-- The name of a subject is read from a value where what follows it ends a value. -/
theorem subject_of_read {u : Unit} (h : readSubject text = .ok (u, rest))
    (closes : Json.Closes rest)
    (hvalue : Json.readNested arranged depth text = .ok (value, left)) : left = rest := by
  unfold readSubject at h
  split at h
  · cases h
  · rename_i b inner hmark
    split_ifs at h with hopen
    · cases h
      have hmem := Json.mem_of_closes_cons hmark closes
      rcases hopen with rfl | rfl <;> exact absurd hmem (by decide)
    · obtain ⟨array, object⟩ := not_or.mp hopen
      rw [Json.readNested_of_scalar hmark array object] at hvalue
      obtain ⟨⟨found, after⟩, hscalar, h⟩ := bind_eq_ok.mp h
      cases hscalar.symm.trans hvalue
      cases h
      rfl

end Reading

/-- What a field of claims reads is left like the value that it reads, and changes the moment if
it is the one of expiry. -/
def Agrees (f : Json.Field (Option Nat)) : Prop :=
  ∀ text change rest value left, f.read text = .ok (change, rest) → Json.Closes rest →
    Json.readValue (Json.maxDepth - 1) text = .ok (value, left) →
    left = rest ∧ change = Json.Schema.only "exp" momentOf f.name value

theorem agrees_unused {α : Type} {name : String} {reading : Json.Reading α} (other : name ≠ "exp")
    (leaves : ∀ text a rest value left, reading text = .ok (a, rest) → Json.Closes rest →
      Json.readValue (Json.maxDepth - 1) text = .ok (value, left) → left = rest) :
    Agrees (unused name reading) := by
  intro text change rest value left h closes hvalue
  obtain ⟨⟨a, after⟩, hread, h⟩ := bind_eq_ok.mp h
  cases h
  refine ⟨leaves _ _ _ _ _ hread closes hvalue, ?_⟩
  funext record
  exact (if_neg other).symm

theorem agrees_expiryField : Agrees expiryField := by
  intro text change rest value left h closes hvalue
  obtain ⟨⟨moment, after⟩, hread, h⟩ := bind_eq_ok.mp h
  cases h
  obtain ⟨hleft, rfl⟩ := moment_of_read hread closes hvalue
  exact ⟨hleft, rfl⟩

theorem agrees_claimsField {f : Json.Field (Option Nat)} (h : f ∈ claimsSchema.fields) :
    Agrees f := by
  have anything {name : String} (other : name ≠ "exp") :
      Agrees (unused name Json.readAnything) := by
    refine agrees_unused other fun text a rest value left hread _ hvalue => ?_
    obtain ⟨⟨found, after⟩, hfound, hread⟩ := bind_eq_ok.mp hread
    cases hfound.symm.trans hvalue
    cases hread
    rfl
  simp only [claimsSchema, List.mem_cons, List.not_mem_nil, or_false] at h
  rcases h with rfl | rfl | rfl | rfl | rfl
  · exact agrees_expiryField
  · exact agrees_unused (by decide) fun _ _ _ _ _ hread closes hvalue =>
      (moment_of_read hread closes hvalue).1
  · exact agrees_unused (by decide) fun _ _ _ _ _ hread closes hvalue =>
      subject_of_read hread closes hvalue
  · exact anything (by decide)
  · exact anything (by decide)

/-- Claims are read value by value, as far as they are values. -/
theorem reads_claims : claimsSchema.ReadBy (Json.readValue (Json.maxDepth - 1)) True
    (Json.Schema.only "exp" momentOf) := by
  have covers : Json.Covers Json.passOver (Json.readValue (Json.maxDepth - 1)) :=
    (Json.covers_readNested _ _).passOver
  refine Json.Schema.readBy_only covers ?_ rfl ?_ ?_
  · intro f hf
    simp only [claimsSchema, List.mem_cons, List.not_mem_nil, or_false] at hf
    rcases hf with rfl | rfl | rfl | rfl | rfl <;> rfl
  · intro f hf text change rest h closes
    cases hvalue : Json.readValue (Json.maxDepth - 1) text with
    | error stop => exact trivial
    | ok found => exact agrees_claimsField hf _ _ _ _ _ h closes hvalue
  · intro text rest hpass
    cases hvalue : Json.readValue (Json.maxDepth - 1) text with
    | error stop => exact trivial
    | ok found =>
      cases hpass.symm.trans (covers _ _ _ hvalue)
      exact rfl

end Token

/-- A value with brackets is what is read between them. -/
theorem Json.readNested_of_content {arranged : List (String × Value) → Members} {depth : Nat}
    {text rest : List UInt8} {value : Value}
    (h : readNested arranged (depth + 1) text = .ok (value, rest)) :
    (∃ list, readContent (readNested arranged depth) text = .ok (.members list, rest) ∧
        value = .object (arranged list)) ∨
      (∃ list, readContent (readNested arranged depth) text = .ok (.items list, rest) ∧
        value = .array list) ∨
      ∃ b inner, skipSpace text = b :: inner ∧ b ≠ Text.byte '[' ∧ b ≠ Text.byte openBrace := by
  simp only [readNested, readWith] at h
  split at h
  · cases h
  · rename_i b inner hmark
    split_ifs at h with harray hobject
    · obtain ⟨⟨list, left⟩, hlist, h⟩ := bind_eq_ok.mp h
      cases h
      have hbrace : b ≠ Text.byte openBrace := by
        rw [harray]
        decide
      refine .inr (.inl ⟨list, ?_, rfl⟩)
      simp only [readContent, hmark, if_neg hbrace, if_pos harray, hlist]
      rfl
    · obtain ⟨⟨list, left⟩, hlist, h⟩ := bind_eq_ok.mp h
      cases h
      refine .inl ⟨list, ?_, rfl⟩
      simp only [readContent, hmark, if_pos hobject, hlist]
      rfl
    · exact .inr (.inr ⟨b, inner, hmark, harray, hobject⟩)

namespace Token

/-- The value of the member of a name, or at the place of it. -/
theorem expiry_eq_ok {claims : String} {bytes : List UInt8} {moment : Option Nat}
    (hbytes : partBytes claims = .ok bytes) (h : expiry claims = .ok moment) :
    (∃ members, Json.read bytes = .ok (.object members) ∧
        moment = (Json.Members.get? members "exp").bind momentOf) ∨
      ∃ items, Json.read bytes = .ok (.array items) ∧ items.length = 5 ∧
        moment = items.head?.bind momentOf := by
  obtain ⟨bytes', hbytes', h⟩ := bind_eq_ok.mp h
  cases hbytes.symm.trans hbytes'
  obtain ⟨value, hvalue, h⟩ := bind_eq_ok.mp h
  have hjson := mapError_eq_ok.mp hvalue
  obtain ⟨left, hvalue, _⟩ := Json.readAll_eq_ok.mp hjson
  obtain ⟨rest, hrecord, _⟩ := Json.readAll_eq_ok.mp (mapError_eq_ok.mp h)
  have hgives := Json.Schema.gives_readContent reads_claims hrecord
  rcases Json.readNested_of_content hvalue with ⟨list, hcontent, rfl⟩ | ⟨list, hcontent, rfl⟩ |
    ⟨b, inner, hmark, array, object⟩
  · obtain ⟨_, hholds⟩ := hgives.of_ok hcontent
    generalize hcontent' : Json.Content.members list = content at hholds
    cases hholds with
    | members once complete =>
      cases hcontent'
      refine .inl ⟨_, hjson, ?_⟩
      rw [Json.Schema.applied_only, Json.Members.get?_ofList]
      cases (Json.Schema.membersOf "exp" list).getLast? <;> rfl
    | items short complete => cases hcontent'
  · obtain ⟨_, hholds⟩ := hgives.of_ok hcontent
    generalize hcontent' : Json.Content.items list = content at hholds
    cases hholds with
    | members once complete => cases hcontent'
    | items short complete =>
      cases hcontent'
      have last : claimsSchema.fields.getLast? = some (unused "aud" Json.readAnything) := rfl
      have five : list.length = 5 := Json.Schema.length_items last rfl short complete
      have hname : (claimsSchema.fields.map Json.Field.name)[0]? = some "exp" := rfl
      refine .inr ⟨list, hjson, five, ?_⟩
      rw [Json.Schema.applied_only, Json.Schema.membersOf_zip _ 0 (by decide) hname,
        List.head?_eq_getElem?]
      cases list[0]? <;> rfl
  · rcases Json.Schema.bracket_of_read hrecord hmark with h | h
    · exact absurd h object
    · exact absurd h array

end Token

end TableGateway
