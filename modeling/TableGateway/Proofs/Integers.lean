import TableGateway.Proofs.Sources

-- The laws of integers. An integer of sixty-four bits is bound as it is written. One that is out of
-- this range, and a zero with a minus, are numbers for JSON still, and are bound in floating point.

namespace TableGateway

open Fallible

namespace Json

/-! ## Integers in texts -/

/-- A text is an integer: digits, and nothing else but a minus in front of them. -/
def IsInteger (text : List UInt8) (negative : Bool) (magnitude : Nat) : Prop :=
  ∃ digits, digits ≠ [] ∧ (∀ b ∈ digits, isDigitByte b = true) ∧
    text = (if negative then [Text.byte '-'] else []) ++ digits ∧
    magnitude = (digitsOf digits).foldl (fun n d => n * 10 + d) 0

/-- The value of an integer with its sign. -/
def integerOf (negative : Bool) (magnitude : Nat) : Int :=
  if negative then -(magnitude : Int) else magnitude

/-- An integer has room in sixty-four bits with a sign. A zero with a minus has none. -/
def HasRoom (negative : Bool) (magnitude : Nat) : Prop :=
  Text.minInt64 ≤ integerOf negative magnitude ∧ integerOf negative magnitude ≤ Text.maxInt64 ∧
    ¬ (negative = true ∧ magnitude = 0)

/-- Digits are left over where their number does not stay within the bound. -/
theorem gather_of_gt {bound n : Nat} {ds : List Nat} (start : n ≤ bound)
    (h : bound < ds.foldl (fun n d => n * 10 + d) n) : (gather bound n ds).2 ≠ [] := by
  induction ds generalizing n with
  | nil => exact absurd h (Nat.not_lt.mpr start)
  | cons d ds ih =>
    unfold gather
    by_cases hover : n * 10 + d > bound
    · rw [if_pos hover]
      exact List.cons_ne_nil d ds
    · rw [if_neg hover]
      exact ih (Nat.not_lt.mp hover) h

theorem afterDigits_of_digits {digits : List UInt8}
    (all : ∀ b ∈ digits, isDigitByte b = true) : afterDigits digits = [] :=
  List.dropWhile_eq_nil_iff.mpr all

theorem float_of_finishFloat {negative : Bool} {digits : Nat} {exponent : Int} {n : Number}
    {text rest : List UInt8} (h : finishFloat negative digits exponent text = .ok (n, rest)) :
    ∃ bits, n = .float bits := by
  unfold finishFloat at h
  split at h
  · cases h
    exact ⟨_, rfl⟩
  · cases h

/-- A number that is read from digits alone is whole, but for a negative one that is too small or
is zero, and one that is too great for sixty-four bits. -/
theorem number_of_digits {negative : Bool} {digits rest : List UInt8} {n : Number}
    (some_digit : digits ≠ []) (all : ∀ b ∈ digits, isDigitByte b = true)
    (h : readNumber negative digits = .ok (n, rest)) {magnitude : Nat}
    (value : magnitude = (digitsOf digits).foldl (fun n d => n * 10 + d) 0) :
    magnitude ≤ maxUInt64 ∧ n = wholeOrFloat negative magnitude ∨
      maxUInt64 < magnitude ∧ ∃ bits, n = .float bits := by
  obtain ⟨b, text, rfl⟩ := List.exists_cons_of_ne_nil some_digit
  have hdigit : isDigitByte b = true := all b List.mem_cons_self
  by_cases hzero : b = Text.byte '0'
  · -- Nothing follows a zero in front.
    subst hzero
    cases text with
    | nil =>
      obtain rfl : magnitude = 0 := value
      cases h
      exact .inl ⟨Nat.zero_le _, rfl⟩
    | cons c text =>
      have hnext : isDigitByte c = true := all c (List.mem_cons_of_mem _ List.mem_cons_self)
      simp only [readNumber, if_true, hnext] at h
      cases h
  · simp only [readNumber, if_neg hzero, hdigit, if_true, afterDigits_of_digits all] at h
    rcases Nat.lt_or_ge maxUInt64 magnitude with hlong | hshort
    · have hleft : (gather maxUInt64 0 (digitsOf (b :: text))).2 ≠ [] :=
        gather_of_gt (Nat.zero_le _) (value ▸ hlong)
      have hextra : (gather maxUInt64 0 (digitsOf (b :: text))).2.length ≠ 0 :=
        fun hlength => hleft (List.length_eq_zero_iff.mp hlength)
      simp only [readAfterWhole, if_neg hextra] at h
      exact .inr ⟨hlong, float_of_finishFloat h⟩
    · have hgather := gather_of_le (value ▸ hshort)
      rw [← value] at hgather
      rw [hgather] at h
      cases h
      exact .inl ⟨hshort, rfl⟩

/-- An integer that is read by itself is the number of its digits. -/
theorem read_integer {text : List UInt8} {negative : Bool} {magnitude : Nat} {v : Value}
    (integer : IsInteger text negative magnitude) (h : read text = .ok v) :
    magnitude ≤ maxUInt64 ∧ v = .number (wholeOrFloat negative magnitude) ∨
      maxUInt64 < magnitude ∧ ∃ bits, v = .number (.float bits) := by
  obtain ⟨digits, hne, hall, rfl, hvalue⟩ := integer
  obtain ⟨rest, hread, _⟩ := readAll_eq_ok.mp h
  have hnumber : ∃ n, v = .number n ∧ readNumber negative digits = .ok (n, rest) := by
    cases negative with
    | true =>
      have hmark : skipSpace (Text.byte '-' :: digits) = Text.byte '-' :: digits :=
        skipSpace_cons (by decide) digits
      have hscalar := (readNested_of_scalar hmark (by decide) (by decide)).symm.trans hread
      rw [readScalar_minus] at hscalar
      obtain ⟨⟨n, left⟩, hn, heq⟩ := bind_eq_ok.mp hscalar
      cases heq
      exact ⟨n, rfl, hn⟩
    | false =>
      obtain ⟨b, inner, rfl⟩ := List.exists_cons_of_ne_nil hne
      have hdigit : isDigitByte b = true := hall b List.mem_cons_self
      have hmark : skipSpace (b :: inner) = b :: inner :=
        skipSpace_cons (not_isSpaceByte_of_isDigitByte hdigit) inner
      have hother (c : UInt8) (hc : isDigitByte c = false) : b ≠ c := by
        rintro rfl
        exact absurd hdigit (by simp [hc])
      have hscalar := (readNested_of_scalar hmark (hother _ (by decide))
        (hother _ (by decide))).symm.trans hread
      rw [readScalar_digit hdigit] at hscalar
      obtain ⟨⟨n, left⟩, hn, heq⟩ := bind_eq_ok.mp hscalar
      cases heq
      exact ⟨n, rfl, hn⟩
  obtain ⟨n, rfl, hn⟩ := hnumber
  rcases number_of_digits hne hall hn hvalue with ⟨hshort, rfl⟩ | ⟨hlong, bits, rfl⟩
  · exact .inl ⟨hshort, rfl⟩
  · exact .inr ⟨hlong, bits, rfl⟩

end Json

/-! ## Integers in cells -/

namespace Cell

open Json (integerOf HasRoom maxUInt64 wholeOrFloat)

/-- The cell that the text of an integer is bound as: the same integer where it has room, and else a
number in floating point. That is the nearest one to what has sixty-four bits without its sign, and
beyond them it is the one that the text is read as. -/
inductive StandsFor (text : List UInt8) (negative : Bool) (magnitude : Nat) : Cell → Prop where
  | whole (room : HasRoom negative magnitude) :
      StandsFor text negative magnitude (.integer (integerOf negative magnitude))
  | nearest {bits : UInt64} (none : ¬ HasRoom negative magnitude) (short : magnitude ≤ maxUInt64)
      (near : .float bits = Json.signed negative (UInt64.ofNat magnitude).toFloat) :
      StandsFor text negative magnitude (.real bits)
  | far {bits : UInt64} (long : maxUInt64 < magnitude)
      (reads : Json.read text = .ok (.number (.float bits))) :
      StandsFor text negative magnitude (.real bits)

/-- What has no room in sixty-four bits at all has none with a sign. -/
theorem not_hasRoom_of_long {negative : Bool} {magnitude : Nat} (long : maxUInt64 < magnitude) :
    ¬ HasRoom negative magnitude := by
  unfold maxUInt64 at long
  rintro ⟨hlow, hhigh, _⟩
  unfold Text.minInt64 integerOf at hlow
  unfold Text.maxInt64 integerOf at hhigh
  split_ifs at hlow hhigh <;> omega

theorem StandsFor.integer_iff {text : List UInt8} {negative : Bool} {magnitude : Nat} {cell : Cell}
    (h : StandsFor text negative magnitude cell) :
    cell = .integer (integerOf negative magnitude) ↔ HasRoom negative magnitude := by
  cases h with
  | whole room => exact iff_of_true rfl room
  | nearest none => exact iff_of_false nofun none
  | far long => exact iff_of_false nofun (not_hasRoom_of_long long)

theorem standsFor_wholeOrFloat (text : List UInt8) {negative : Bool} {magnitude : Nat}
    (short : magnitude ≤ maxUInt64) :
    StandsFor text negative magnitude (ofValue (.number (wholeOrFloat negative magnitude))) := by
  by_cases hroom : HasRoom negative magnitude
  · obtain ⟨hlow, hhigh, hzero⟩ := hroom
    have hwhole : wholeOrFloat negative magnitude = .whole (integerOf negative magnitude) := by
      unfold wholeOrFloat
      unfold Text.minInt64 at hlow
      cases negative with
      | false => rfl
      | true =>
        have hfits : ¬ (magnitude = 0 ∨ magnitude > 9223372036854775808) := by
          simp only [integerOf, if_true] at hlow
          simp only [true_and] at hzero
          omega
        rw [if_pos rfl, if_neg hfits]
        rfl
    rw [hwhole, ofValue, integer?_whole hlow hhigh]
    exact .whole ⟨hlow, hhigh, hzero⟩
  · cases negative with
    | false =>
      have hnone : integer? (.whole magnitude) = none := by
        refine if_neg fun hfits => hroom ⟨hfits.1, hfits.2, ?_⟩
        rintro ⟨hminus, _⟩
        cases hminus
      change StandsFor text false magnitude (ofValue (.number (.whole magnitude)))
      rw [ofValue, hnone]
      refine .nearest hroom short ?_
      rw [nearestFloat, if_neg (by omega), Int.toNat_natCast]
      rfl
    | true =>
      have hfloat : wholeOrFloat true magnitude =
          Json.signed true (UInt64.ofNat magnitude).toFloat := by
        unfold wholeOrFloat
        rw [if_pos rfl, if_pos]
        by_contra hfits
        refine hroom ⟨?_, ?_, ?_⟩
        · simp only [integerOf, if_true, Text.minInt64]
          omega
        · simp only [integerOf, if_true, Text.maxInt64]
          omega
        · simp only [true_and]
          omega
      rw [hfloat]
      exact .nearest hroom short rfl

/-- The value of an integer is bound as a cell that stands for the integer. -/
theorem standsFor_of_read {text : List UInt8} {negative : Bool} {magnitude : Nat} {v : Json.Value}
    (integer : Json.IsInteger text negative magnitude) (h : Json.read text = .ok v) :
    StandsFor text negative magnitude (ofValue v) := by
  rcases Json.read_integer integer h with ⟨hshort, rfl⟩ | ⟨hlong, bits, rfl⟩
  · exact standsFor_wholeOrFloat text hshort
  · exact .far hlong h

end Cell

/-! ## Integers in statements -/

namespace Request

/-- Integers of sixty-four bits are bound as they are written. Each place of a statement has a cell
and a source. Where the source is an integer, in a body or in a list of a filter, the cell is the
same integer if sixty-four bits have room for it. A zero with a minus and an integer out of this
range are bound in floating point: as the number nearest to the integer, or as the one that the
source is read as where sixty-four bits do not hold its digits. -/
theorem integers_of_sixty_four_bits_are_bound_as_they_are {request : Request}
    {known : Option (List String)} {kind : StatementKind} {table : String} {statement : Statement}
    (h : request.compile known kind table = .ok statement) :
    (Cell.bound statement.values).length = (request.sources kind).length ∧
    ∀ (place : Nat) (text : List UInt8) (negative : Bool) (magnitude : Nat),
      (request.sources kind)[place]? = some (some text) →
      Json.IsInteger text negative magnitude →
      ∃ cell, (Cell.bound statement.values)[place]? = some cell ∧
        Cell.StandsFor text negative magnitude cell ∧
        (cell = .integer (Json.integerOf negative magnitude) ↔
          Json.HasRoom negative magnitude) := by
  have hsources := comeFrom_compile h
  refine ⟨by rw [Cell.bound, List.length_map, hsources.length_eq], ?_⟩
  intro place text negative magnitude hsource hinteger
  obtain ⟨hplace, htext⟩ := List.getElem?_eq_some_iff.mp hsource
  have hbelow : place < statement.values.length := hsources.length_eq ▸ hplace
  have hvalue : statement.values[place]? = some statement.values[place] :=
    List.getElem?_eq_getElem hbelow
  have hfrom := hsources.get hbelow hplace
  simp only [List.get_eq_getElem, htext] at hfrom
  cases hfrom with
  | read reads =>
    have hstands := Cell.standsFor_of_read hinteger reads
    refine ⟨_, ?_, hstands, hstands.integer_iff⟩
    rw [Cell.bound, List.getElem?_map, hvalue]
    rfl

/-- An update with integers at both ends of the range, in the body and in a list, and a zero with
a minus. -/
theorem integers_at_both_ends_are_bound :
    let request : Request :=
      { params := ⟨[("id", "in.(-9223372036854775808)")]⟩
        headers := [("content-type", "application/json")]
        body := Text.bytes "\x7b\"b\": -0, \"a\": 9223372036854775807\x7d" }
    ∃ statement, request.compile none .update "pets" = .ok statement ∧
      request.sources .update = [some (Text.bytes "9223372036854775807"), some (Text.bytes "-0"),
        some (Text.bytes "-9223372036854775808")] ∧
      (Cell.bound statement.values)[0]? = some (.integer 9223372036854775807) ∧
      (∃ bits, (Cell.bound statement.values)[1]? = some (.real bits)) ∧
      (Cell.bound statement.values)[2]? = some (.integer (-9223372036854775808)) := by
  intro request
  have htext : (request.compile none .update "pets").toOption.map Statement.text =
      some "update pets set a = ?, b = ? where id IN (?)" := by
    decide +kernel
  have hsources : request.sources .update = [some (Text.bytes "9223372036854775807"),
      some (Text.bytes "-0"), some (Text.bytes "-9223372036854775808")] := by
    decide +kernel
  obtain ⟨statement, h, _⟩ := toOption_map_eq_some.mp htext
  obtain ⟨_, hbound⟩ := integers_of_sixty_four_bits_are_bound_as_they_are h
  obtain ⟨_, hgreatest, _, hroom⟩ := hbound 0 (Text.bytes "9223372036854775807") false
    9223372036854775807 (by rw [hsources]; rfl)
    ⟨Text.bytes "9223372036854775807", by decide +kernel, by decide +kernel, rfl, rfl⟩
  obtain ⟨_, hzero, hstands, _⟩ := hbound 1 (Text.bytes "-0") true 0 (by rw [hsources]; rfl)
    ⟨Text.bytes "0", by decide +kernel, by decide +kernel, rfl, rfl⟩
  obtain ⟨_, hleast, _, hroom'⟩ := hbound 2 (Text.bytes "-9223372036854775808") true
    9223372036854775808 (by rw [hsources]; rfl)
    ⟨Text.bytes "9223372036854775808", by decide +kernel, by decide +kernel, rfl, rfl⟩
  refine ⟨statement, h, hsources, ?_, ?_, ?_⟩
  · rw [hgreatest, hroom.mpr (by unfold Json.HasRoom; decide)]
    rfl
  · cases hstands with
    | whole room => exact absurd ⟨rfl, rfl⟩ room.2.2
    | nearest _ _ _ => exact ⟨_, hzero⟩
    | far _ _ => exact ⟨_, hzero⟩
  · rw [hleast, hroom'.mpr (by unfold Json.HasRoom; decide)]
    rfl

/-- Not every integer is bound as one: the first one after the range is not. -/
theorem not_every_integer_is_bound_as_one :
    ¬ ∀ (request : Request) (known : Option (List String)) (kind : StatementKind) (table : String)
      (statement : Statement) (place : Nat) (text : List UInt8) (negative : Bool) (magnitude : Nat),
      request.compile known kind table = .ok statement →
      (request.sources kind)[place]? = some (some text) →
      Json.IsInteger text negative magnitude →
      (Cell.bound statement.values)[place]? =
        some (.integer (Json.integerOf negative magnitude)) := by
  intro h
  let request : Request :=
    { headers := [("content-type", "application/json")]
      body := Text.bytes "\x7b\"a\": 9223372036854775808\x7d" }
  have htext : (request.compile none .insert "pets").toOption.map Statement.text =
      some "insert into pets (a) values (?)" := by
    decide +kernel
  have hsources : request.sources .insert = [some (Text.bytes "9223372036854775808")] := by
    decide +kernel
  obtain ⟨statement, hcompile, _⟩ := toOption_map_eq_some.mp htext
  have hbound := h request none .insert "pets" statement 0 (Text.bytes "9223372036854775808") false
    9223372036854775808 hcompile (by rw [hsources]; rfl)
    ⟨Text.bytes "9223372036854775808", by decide +kernel, by decide +kernel, rfl, rfl⟩
  rw [Cell.bound, List.getElem?_map] at hbound
  obtain ⟨v, _, hv⟩ := Option.map_eq_some_iff.mp hbound
  exact absurd (Cell.integer_fits hv).2 (by decide)

end Request

end TableGateway
