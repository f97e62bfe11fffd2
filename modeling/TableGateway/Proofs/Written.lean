import TableGateway.Json.Writer
import TableGateway.Proofs.Characters
import TableGateway.Proofs.Numerals
import TableGateway.Proofs.Ordered
import TableGateway.Proofs.Reading

-- The laws of written values. The compact text of a value is read back as that value, whatever
-- its strings hold, as long as its brackets do not nest too deep.

namespace TableGateway.Json

open Fallible

/-! ## Bytes of characters -/

/-- The bytes of characters, in order. -/
def encoded (cs : List Char) : List UInt8 :=
  cs.flatMap String.utf8EncodeChar

theorem encoded_append (cs ds : List Char) : encoded (cs ++ ds) = encoded cs ++ encoded ds :=
  List.flatMap_append

theorem encoded_cons {c : Char} (h : c.toNat < 0x80) (cs : List Char) :
    encoded (c :: cs) = Text.byte c :: encoded cs := by
  rw [encoded, List.flatMap_cons, Text.utf8EncodeChar_of_lt h]
  rfl

/-! ## Numerals -/

theorem isDigitByte_byte {c : Char} (h : Text.isDigit c = true) :
    isDigitByte (Text.byte c) = true := by
  simp only [Text.isDigit, Bool.and_eq_true, decide_eq_true_eq] at h
  simp only [isDigitByte, Bool.and_eq_true, decide_eq_true_eq, UInt8.le_iff_toNat_le,
    Text.toNat_byte (show c.toNat < 256 by omega)]
  exact h

theorem toNat_lt_of_isDigit {c : Char} (h : Text.isDigit c = true) : c.toNat < 0x80 := by
  simp only [Text.isDigit, Bool.and_eq_true, decide_eq_true_eq] at h
  omega

theorem encoded_digits {cs : List Char} (digits : ∀ c ∈ cs, Text.isDigit c = true) :
    encoded cs = cs.map Text.byte := by
  induction cs with
  | nil => rfl
  | cons c cs ih =>
    obtain ⟨hc, hcs⟩ := List.forall_mem_cons.mp digits
    rw [encoded_cons (toNat_lt_of_isDigit hc), ih hcs, List.map_cons]

theorem forall_mem_encoded {cs : List Char} (digits : ∀ c ∈ cs, Text.isDigit c = true) :
    ∀ b ∈ encoded cs, isDigitByte b = true := by
  rw [encoded_digits digits]
  intro b hb
  obtain ⟨c, hc, rfl⟩ := List.mem_map.mp hb
  exact isDigitByte_byte (digits c hc)

/-- Digits that are written are read as the digits that they are. -/
theorem digitsOf_encoded {cs : List Char} {rest : List UInt8}
    (digits : ∀ c ∈ cs, Text.isDigit c = true) (ends : EndsNumeral rest) :
    digitsOf (encoded cs ++ rest) = cs.map (fun c => c.toNat - 0x30) ∧
      afterDigits (encoded cs ++ rest) = rest := by
  obtain ⟨hdigits, hafter⟩ :=
    digits_append (forall_mem_encoded digits) fun b hb => (ends b hb).1
  refine ⟨hdigits.trans ?_, hafter⟩
  rw [encoded_digits digits, List.map_map]
  refine List.map_congr_left fun c hc => ?_
  have hlt := toNat_lt_of_isDigit (digits c hc)
  simp only [Function.comp_apply, Text.toNat_byte (show c.toNat < 256 by omega)]

/-- Digits are all gathered where their number stays within the bound. -/
theorem gather_of_le {bound n : Nat} {ds : List Nat}
    (h : ds.foldl (fun n d => n * 10 + d) n ≤ bound) :
    gather bound n ds = (ds.foldl (fun n d => n * 10 + d) n, []) := by
  induction ds generalizing n with
  | nil => rfl
  | cons d ds ih =>
    have hgrows : ∀ (ds : List Nat) (m : Nat), m ≤ ds.foldl (fun n d => n * 10 + d) m := by
      intro ds
      induction ds with
      | nil => exact fun m => Nat.le_refl m
      | cons d ds ih => exact fun m => Nat.le_trans (by omega) (ih (m * 10 + d))
    have hfirst : n * 10 + d ≤ bound := Nat.le_trans (hgrows ds _) h
    rw [gather, if_neg (Nat.not_lt.mpr hfirst)]
    exact ih h

/-- No number but zero starts with a zero. -/
theorem head_toDigits {n : Nat} (h : n ≠ 0) :
    ∃ c cs, Nat.toDigits 10 n = c :: cs ∧ c ≠ '0' := by
  induction n using Nat.strong_induction_on with
  | _ n ih =>
    rw [Nat.toDigits_eq_if (by decide)]
    split
    · rename_i hlt
      refine ⟨_, [], rfl, fun hzero => ?_⟩
      have hnat := congrArg Char.toNat hzero
      rw [Nat.toNat_digitChar_of_lt_ten hlt] at hnat
      exact h (by simpa using hnat)
    · obtain ⟨c, cs, heq, hc⟩ := ih (n / 10) (by omega) (by omega)
      exact ⟨c, cs ++ [(n % 10).digitChar], by rw [heq]; rfl, hc⟩

theorem exists_head_toDigits (n : Nat) :
    ∃ c cs, Nat.toDigits 10 n = c :: cs ∧ Text.isDigit c = true := by
  cases hcs : Nat.toDigits 10 n with
  | nil => exact absurd hcs Nat.toDigits_ne_nil
  | cons c cs =>
    refine ⟨c, cs, rfl, Text.isDigit_of_mem_toDigits (n := n) ?_⟩
    rw [hcs]
    exact List.mem_cons_self

theorem foldl_toDigits (n : Nat) :
    ((Nat.toDigits 10 n).map fun c => c.toNat - 0x30).foldl (fun n d => n * 10 + d) 0 = n := by
  rw [List.foldl_map]
  change Text.digitsValue (Nat.toDigits 10 n) = n
  rw [Text.digitsValue_eq, Nat.ofDigitChars_ten_toDigits]

/-- Digits without a point and an exponent are read as a whole number. -/
theorem readNumber_digits {negative : Bool} {n : Nat} {rest : List UInt8} (fits : n ≤ maxUInt64)
    (ends : EndsNumeral rest) :
    readNumber negative (encoded (Nat.toDigits 10 n) ++ rest) =
      .ok (wholeOrFloat negative n, rest) := by
  have hdigits : ∀ c ∈ Nat.toDigits 10 n, Text.isDigit c = true := fun c hc =>
    Text.isDigit_of_mem_toDigits hc
  have hwhole (digits : Nat) : readAfterWhole negative digits 0 rest =
      .ok (wholeOrFloat negative digits, rest) := by
    rw [readAfterWhole_of_head fun c hc => (ends c hc).2, if_pos rfl]
  by_cases hzero : n = 0
  · subst hzero
    have htext : encoded (Nat.toDigits 10 0) ++ rest = Text.byte '0' :: rest := rfl
    rw [htext, readNumber_zero fun c hc => (ends c hc).1, hwhole]
  · obtain ⟨c, cs, hhead, hc⟩ := head_toDigits hzero
    have hdigit : Text.isDigit c = true := hdigits c (by rw [hhead]; exact List.mem_cons_self)
    have hlt := toNat_lt_of_isDigit hdigit
    have hfirst : Text.byte c ≠ Text.byte '0' := by
      intro heq
      have hnat := congrArg UInt8.toNat heq
      rw [Text.toNat_byte (by omega)] at hnat
      exact hc (Char.toNat_inj.mp hnat)
    have htext : encoded (Nat.toDigits 10 n) ++ rest = Text.byte c :: (encoded cs ++ rest) := by
      rw [hhead, encoded_cons hlt]
      rfl
    obtain ⟨hread, hafter⟩ := digitsOf_encoded hdigits ends
    have hgather : gather maxUInt64 0 (digitsOf (encoded (Nat.toDigits 10 n) ++ rest)) =
        (n, []) := by
      rw [hread, gather_of_le (by rw [foldl_toDigits]; exact fits), foldl_toDigits]
    rw [htext] at hgather hafter ⊢
    simp only [readNumber, if_neg hfirst, isDigitByte_byte hdigit, if_true, hgather, hafter,
      List.length_nil]
    exact hwhole n

/-! ## Strings -/

/-- A byte that stands for itself in a string. -/
def IsPlainByte (b : UInt8) : Prop :=
  b ≠ Text.byte '"' ∧ b ≠ Text.byte '\\' ∧ ¬ b < 0x20

section Strings

variable {fuel : Nat} {read rest : List UInt8}

theorem readStringBytes_plain {bs : List UInt8} (plain : ∀ b ∈ bs, IsPlainByte b)
    (hfuel : bs.length ≤ fuel) :
    readStringBytes fuel read (bs ++ rest) =
      readStringBytes (fuel - bs.length) (bs.reverse ++ read) rest := by
  induction bs generalizing fuel read with
  | nil => rfl
  | cons b bs ih =>
    obtain ⟨hb, hbs⟩ := List.forall_mem_cons.mp plain
    obtain ⟨hquote, hslash, hcontrol⟩ := hb
    obtain ⟨fuel, rfl⟩ : ∃ k, fuel = k + 1 := ⟨fuel - 1, by simp at hfuel; omega⟩
    rw [List.cons_append, readStringBytes, if_neg hquote, if_neg hslash, if_neg hcontrol,
      ih hbs (by simpa using hfuel)]
    simp

/-- An escape gives its bytes, and takes one step. -/
theorem readStringBytes_escape {escape bytes : List UInt8}
    (h : readEscape (escape ++ rest) = .ok (bytes, rest)) :
    readStringBytes (fuel + 1) read (Text.byte '\\' :: (escape ++ rest)) =
      readStringBytes fuel (bytes.reverse ++ read) rest := by
  simp only [readStringBytes, if_neg (show Text.byte '\\' ≠ Text.byte '"' by decide), if_true, h]
  rfl

end Strings

theorem hexValue?_hexDigit : ∀ d < 16, Text.hexValue? (Text.byte (Text.hexDigit d)) = some d := by
  decide

theorem hexDigit_lt : ∀ d < 16, (Text.hexDigit d).toNat < 0x80 := by
  decide

/-- A character that is escaped by its number. -/
theorem readEscape_number {c : Char} (h : c.toNat < 0x20) (rest : List UInt8) :
    readEscape (encoded
        ['u', '0', '0', Text.hexDigit (c.toNat / 16), Text.hexDigit (c.toNat % 16)] ++ rest) =
      .ok (String.utf8EncodeChar c, rest) := by
  have hhigh : c.toNat / 16 < 16 := by omega
  have hlow : c.toNat % 16 < 16 := by omega
  have hbytes : encoded
      ['u', '0', '0', Text.hexDigit (c.toNat / 16), Text.hexDigit (c.toNat % 16)] ++ rest =
      Text.byte 'u' :: Text.byte '0' :: Text.byte '0' ::
        Text.byte (Text.hexDigit (c.toNat / 16)) :: Text.byte (Text.hexDigit (c.toNat % 16)) ::
          rest := by
    rw [encoded_cons (by decide), encoded_cons (by decide), encoded_cons (by decide),
      encoded_cons (hexDigit_lt _ hhigh), encoded_cons (hexDigit_lt _ hlow)]
    rfl
  have hdigits : readFourDigits (Text.byte '0' :: Text.byte '0' ::
      Text.byte (Text.hexDigit (c.toNat / 16)) :: Text.byte (Text.hexDigit (c.toNat % 16)) ::
        rest) = .ok (c.toNat, rest) := by
    have hzero : Text.hexValue? (Text.byte '0') = some 0 := rfl
    simp only [readFourDigits, hzero, hexValue?_hexDigit _ hhigh, hexValue?_hexDigit _ hlow]
    rw [show ((0 * 16 + 0) * 16 + c.toNat / 16) * 16 + c.toNat % 16 = c.toNat by omega]
  have hpoint : readCodePoint (Text.byte '0' :: Text.byte '0' ::
      Text.byte (Text.hexDigit (c.toNat / 16)) :: Text.byte (Text.hexDigit (c.toNat % 16)) ::
        rest) = .ok (c.toNat, rest) := by
    refine bind_eq_ok.mpr ⟨_, hdigits, ?_⟩
    simp only
    rw [if_neg (by omega), if_neg (by omega)]
  rw [hbytes]
  refine bind_eq_ok.mpr ⟨_, hpoint, ?_⟩
  simp only [Char.ofNat_toNat]

theorem isPlainByte_of_mem {c : Char} (quote : c ≠ '"') (slash : c ≠ '\\')
    (control : ¬ c.toNat < 0x20) : ∀ b ∈ String.utf8EncodeChar c, IsPlainByte b := by
  intro b hb
  have hne (d : Char) (ascii : d.toNat < 0x80) (other : c ≠ d) : b ≠ Text.byte d := by
    rintro rfl
    exact Text.byte_not_mem_utf8EncodeChar ascii other hb
  refine ⟨hne '"' (by decide) quote, hne '\\' (by decide) slash, ?_⟩
  rw [UInt8.lt_iff_toNat_lt]
  by_cases hascii : c.toNat < 0x80
  · rw [Text.utf8EncodeChar_of_lt hascii, List.mem_singleton] at hb
    rw [hb, Text.toNat_byte (by omega)]
    exact control
  · have hhigh := Text.le_of_mem_utf8EncodeChar (Nat.le_of_not_lt hascii) hb
    exact Nat.not_lt.mpr (Nat.le_trans (by decide) hhigh)

/-- A character is escaped so that its bytes are read back, or it stands for itself. -/
theorem escaped_cases (c : Char) :
    (∃ escape, escaped c = '\\' :: escape ∧
      ∀ rest, readEscape (encoded escape ++ rest) = .ok (String.utf8EncodeChar c, rest)) ∨
    escaped c = [c] ∧ ∀ b ∈ String.utf8EncodeChar c, IsPlainByte b := by
  by_cases hquote : c = '"'
  · subst hquote
    exact .inl ⟨['"'], rfl, fun _ => rfl⟩
  by_cases hslash : c = '\\'
  · subst hslash
    exact .inl ⟨['\\'], rfl, fun _ => rfl⟩
  by_cases hback : c.toNat = 0x08
  · obtain rfl : c = Char.ofNat 0x08 := by rw [← hback, Char.ofNat_toNat]
    exact .inl ⟨['b'], rfl, fun _ => rfl⟩
  by_cases hfeed : c.toNat = 0x0C
  · obtain rfl : c = Char.ofNat 0x0C := by rw [← hfeed, Char.ofNat_toNat]
    exact .inl ⟨['f'], rfl, fun _ => rfl⟩
  by_cases hnewline : c = '\n'
  · subst hnewline
    exact .inl ⟨['n'], rfl, fun _ => rfl⟩
  by_cases hreturn : c = '\r'
  · subst hreturn
    exact .inl ⟨['r'], rfl, fun _ => rfl⟩
  by_cases htab : c = '\t'
  · subst htab
    exact .inl ⟨['t'], rfl, fun _ => rfl⟩
  rw [escaped, if_neg hquote, if_neg hslash, if_neg hback, if_neg hfeed, if_neg hnewline,
    if_neg hreturn, if_neg htab]
  by_cases hcontrol : c.toNat < 0x20
  · rw [if_pos hcontrol]
    exact .inl ⟨_, rfl, readEscape_number hcontrol⟩
  · rw [if_neg hcontrol]
    exact .inr ⟨rfl, isPlainByte_of_mem hquote hslash hcontrol⟩

theorem encoded_singleton (c : Char) : encoded [c] = String.utf8EncodeChar c :=
  List.flatMap_singleton _ _

/-- The characters of a string are read back up to its closing quote. -/
theorem readStringBytes_escaped {cs : List Char} {fuel : Nat} {read rest : List UInt8}
    (hfuel : (encoded (cs.flatMap escaped) ++ Text.byte '"' :: rest).length ≤ fuel) :
    readStringBytes fuel read (encoded (cs.flatMap escaped) ++ Text.byte '"' :: rest) =
      .ok (read.reverse ++ encoded cs, rest) := by
  induction cs generalizing fuel read with
  | nil =>
    obtain ⟨fuel, rfl⟩ : ∃ k, fuel = k + 1 := ⟨fuel - 1, by simp at hfuel; omega⟩
    simp [encoded, readStringBytes]
  | cons c cs ih =>
    have hmore : encoded ((c :: cs).flatMap escaped) ++ Text.byte '"' :: rest =
        encoded (escaped c) ++ (encoded (cs.flatMap escaped) ++ Text.byte '"' :: rest) := by
      rw [List.flatMap_cons, encoded_append, List.append_assoc]
    have hread : encoded (c :: cs) = String.utf8EncodeChar c ++ encoded cs := List.flatMap_cons
    rw [hmore] at hfuel ⊢
    rw [hread]
    rcases escaped_cases c with ⟨escape, hescape, hreads⟩ | ⟨hself, hplain⟩
    · rw [hescape, encoded_cons (by decide)] at hfuel ⊢
      simp only [List.cons_append, List.length_cons, List.length_append] at hfuel
      obtain ⟨fuel, rfl⟩ : ∃ k, fuel = k + 1 := ⟨fuel - 1, by omega⟩
      rw [List.cons_append, readStringBytes_escape (hreads _),
        ih (by simp only [List.length_cons, List.length_append]; omega)]
      simp
    · rw [hself, encoded_singleton] at hfuel ⊢
      simp only [List.length_append] at hfuel
      rw [readStringBytes_plain hplain (by omega),
        ih (by simp only [List.length_append]; omega)]
      simp

/-- A string is read back from its text, after its opening quote. -/
theorem readString_escaped (s : String) (rest : List UInt8) :
    readString (encoded (s.toList.flatMap escaped) ++ Text.byte '"' :: rest) = .ok (s, rest) := by
  refine bind_eq_ok.mpr ⟨_, readStringBytes_escaped (Nat.le_refl _), ?_⟩
  have hdecode : Utf8.decode? ([].reverse ++ encoded s.toList) = some s := Utf8.decode?_bytes s
  simp only [hdecode]

/-! ## Values that can be told apart -/

/-- A value without floating point numbers, as a reader makes one: its whole numbers fit
sixty-four bits, and the members of its objects stand in order, each name once. -/
inductive Value.IsExact : Value → Prop where
  | null : IsExact .null
  | bool (b : Bool) : IsExact (.bool b)
  | whole {n : Int} (low : Number.leastWhole ≤ n) (high : n ≤ Number.greatestWhole) :
      IsExact (.number (.whole n))
  | string (s : String) : IsExact (.string s)
  | array {items : List Value} (items_exact : ∀ v ∈ items, IsExact v) : IsExact (.array items)
  | object {members : Members} (order : members.names.Pairwise Text.Precedes)
      (values_exact : ∀ member ∈ members, IsExact member.2) : IsExact (.object members)

mutual

/-- How deep the brackets of a value nest. -/
def Value.nesting : Value → Nat
  | .array items => itemsNesting items + 1
  | .object members => membersNesting members + 1
  | _ => 0

/-- How deep the brackets of some values nest. -/
def itemsNesting : List Value → Nat
  | [] => 0
  | v :: rest => max v.nesting (itemsNesting rest)

/-- How deep the brackets of some members nest. -/
def membersNesting : List (String × Value) → Nat
  | [] => 0
  | (_, v) :: rest => max v.nesting (membersNesting rest)

end

/-- A reading gives a result, or it stops at a bracket that is one too many. -/
def Returns {α : Type} (within : Prop) (result : α × List UInt8)
    (outcome : Except Stop (α × List UInt8)) : Prop :=
  (within → outcome = .ok result) ∧
    (¬ within → ∃ left, outcome = .error ⟨.nestedTooDeep, left⟩)

namespace Returns

variable {α β : Type} {within within' : Prop} {result : α × List UInt8}
  {outcome : Except Stop (α × List UInt8)}

theorem of_ok (h : outcome = .ok result) : Returns True result outcome :=
  ⟨fun _ => h, fun hnot => absurd trivial hnot⟩

theorem congr (h : Returns within result outcome) (iff : within' ↔ within) :
    Returns within' result outcome := by
  rwa [propext iff]

theorem bind {result' : β × List UInt8} {next : α × List UInt8 → Except Stop (β × List UInt8)}
    (h : Returns within result outcome) (hnext : Returns within' result' (next result)) :
    Returns (within ∧ within') result' (outcome >>= next) := by
  by_cases hwithin : within
  · rw [h.1 hwithin]
    exact hnext.congr (and_iff_right hwithin)
  · obtain ⟨left, hleft⟩ := h.2 hwithin
    rw [hleft]
    exact ⟨fun hboth => absurd hboth.1 hwithin, fun _ => ⟨left, rfl⟩⟩

end Returns

/-! ## Marks between values -/

theorem not_isSpaceByte_of_isDigitByte {b : UInt8} (h : isDigitByte b = true) :
    isSpaceByte b = false := by
  cases hspace : isSpaceByte b with
  | false => rfl
  | true =>
    simp only [isSpaceByte, Bool.or_eq_true, beq_iff_eq] at hspace
    rcases hspace with ((rfl | rfl) | rfl) | rfl <;> exact absurd h (by decide)

/-- What a value starts with is no blank, it does not close an array, and it opens one bracket
or none. -/
theorem Value.IsExact.head {v : Value} (h : v.IsExact) :
    ∃ c cs, v.chars = c :: cs ∧ c.toNat < 0x80 ∧ isSpaceByte (Text.byte c) = false ∧
      Text.byte c ≠ Text.byte ']' ∧
      (v.nesting = 0 → Text.byte c ≠ Text.byte '[' ∧ Text.byte c ≠ Text.byte openBrace) := by
  cases h with
  | null => exact ⟨_, _, rfl, by decide, by decide, by decide, by decide⟩
  | bool b => cases b <;> exact ⟨_, _, rfl, by decide, by decide, by decide, by decide⟩
  | @whole n low high =>
    change ∃ c cs, wholeText n = c :: cs ∧ _
    unfold wholeText
    split
    · exact ⟨_, _, rfl, by decide, by decide, by decide, fun _ => by decide⟩
    · obtain ⟨c, cs, hcs, hdigit⟩ := exists_head_toDigits n.toNat
      have hne (b : UInt8) (hb : isDigitByte b = false) : Text.byte c ≠ b := by
        rintro rfl
        exact absurd (isDigitByte_byte hdigit) (by simp [hb])
      exact ⟨c, cs, hcs, toNat_lt_of_isDigit hdigit,
        not_isSpaceByte_of_isDigitByte (isDigitByte_byte hdigit), hne _ (by decide),
        fun _ => ⟨hne _ (by decide), hne _ (by decide)⟩⟩
  | string s => exact ⟨_, _, rfl, by decide, by decide, by decide, fun _ => by decide⟩
  | array items =>
    exact ⟨_, _, by rw [Value.chars]; rfl, by decide, by decide, by decide,
      fun hflat => absurd hflat (by simp [Value.nesting])⟩
  | object order values =>
    exact ⟨_, _, by rw [Value.chars]; rfl, by decide, by decide, by decide,
      fun hflat => absurd hflat (by simp [Value.nesting])⟩

theorem Value.IsExact.encoded_head {v : Value} (h : v.IsExact) :
    ∃ b bs, encoded v.chars = b :: bs ∧ isSpaceByte b = false ∧ b ≠ Text.byte ']' ∧
      (v.nesting = 0 → b ≠ Text.byte '[' ∧ b ≠ Text.byte openBrace) := by
  obtain ⟨c, cs, hcs, hlt, hhead⟩ := h.head
  exact ⟨_, _, by rw [hcs, encoded_cons hlt], hhead⟩

theorem encoded_head_items {v : Value} (h : v.IsExact) (more : List Value) (rest : List UInt8) :
    ∃ b bs, encoded (itemsChars (v :: more)) ++ rest = b :: bs ∧ isSpaceByte b = false ∧
      b ≠ Text.byte ']' := by
  obtain ⟨b, bs, hbs, hspace, hclose, _⟩ := h.encoded_head
  cases more with
  | nil => exact ⟨b, bs ++ rest, by rw [itemsChars, hbs, List.cons_append], hspace, hclose⟩
  | cons w more =>
    refine ⟨b, bs ++ encoded (',' :: itemsChars (w :: more)) ++ rest, ?_, hspace, hclose⟩
    rw [itemsChars, encoded_append, hbs, List.cons_append, List.cons_append]

/-! ## Items -/

section Reading

variable {item : Reading Value} {depth fuel : Nat} {rest : List UInt8}

/-- `item` reads a value back from its text, unless its brackets nest too deep. -/
def ReadsBack (item : Reading Value) (depth : Nat) (v : Value) : Prop :=
  ∀ rest, EndsNumeral rest →
    Returns (v.nesting ≤ depth) (v, rest) (item (encoded v.chars ++ rest))

theorem returns_readItems {items : List Value} (read : List Value) (rest : List UInt8)
    (ne : items ≠ []) (exact : ∀ v ∈ items, v.IsExact) (reads : ∀ v ∈ items, ReadsBack item depth v)
    (hfuel : (encoded (itemsChars items) ++ Text.byte ']' :: rest).length ≤ fuel) :
    Returns (itemsNesting items ≤ depth) (read.reverse ++ items, rest)
      (readItems item fuel read (encoded (itemsChars items) ++ Text.byte ']' :: rest)) := by
  induction items generalizing fuel read with
  | nil => exact absurd rfl ne
  | cons v items ih =>
    obtain ⟨fuel, rfl⟩ : ∃ k, fuel = k + 1 := ⟨fuel - 1, by simp at hfuel; omega⟩
    obtain ⟨hv, hitems⟩ := List.forall_mem_cons.mp reads
    cases items with
    | nil =>
      have hclose : EndsNumeral (Text.byte ']' :: rest) := endsNumeral_cons (by decide) _
      rw [itemsChars, readItems]
      refine ((hv _ hclose).bind (.of_ok ?_)).congr (by simp [itemsNesting])
      simp [skipSpace_cons (show isSpaceByte (Text.byte ']') = false by decide)]
    | cons w more =>
      have hcomma (text : List UInt8) : EndsNumeral (Text.byte ',' :: text) :=
        endsNumeral_cons (by decide) _
      have hexact := (List.forall_mem_cons.mp exact).2
      have htext : encoded (itemsChars (v :: w :: more)) ++ Text.byte ']' :: rest =
          encoded v.chars ++ Text.byte ',' ::
            (encoded (itemsChars (w :: more)) ++ Text.byte ']' :: rest) := by
        rw [itemsChars, encoded_append, encoded_cons (by decide), List.append_assoc,
          List.cons_append]
      rw [htext] at hfuel ⊢
      simp only [List.length_append, List.length_cons] at hfuel
      have hbound : (encoded (itemsChars (w :: more)) ++ Text.byte ']' :: rest).length ≤ fuel := by
        simp only [List.length_append, List.length_cons]
        omega
      have hmore := ih (v :: read) (List.cons_ne_nil w more) hexact hitems hbound
      rw [readItems, itemsNesting, propext Nat.max_le]
      refine (hv _ (hcomma _)).bind ?_
      obtain ⟨b, bs, hhead, hspace, hclose⟩ := encoded_head_items
        (List.forall_mem_cons.mp hexact).1 more (Text.byte ']' :: rest)
      rw [hhead] at hmore
      simp only [skipSpace_cons (show isSpaceByte (Text.byte ',') = false by decide),
        if_neg (show Text.byte ',' ≠ Text.byte ']' by decide), if_true, hhead,
        skipSpace_cons hspace, if_neg hclose]
      simpa using hmore

theorem returns_readArray {items : List Value} (exact : ∀ v ∈ items, v.IsExact)
    (reads : ∀ v ∈ items, ReadsBack item depth v) (rest : List UInt8) :
    Returns (itemsNesting items ≤ depth) (items, rest)
      (readArray item (encoded (itemsChars items) ++ Text.byte ']' :: rest)) := by
  unfold readArray
  cases items with
  | nil => exact (Returns.of_ok rfl).congr (by simp [itemsNesting])
  | cons v more =>
    obtain ⟨b, bs, hhead, hspace, hclose⟩ := encoded_head_items
      (List.forall_mem_cons.mp exact).1 more (Text.byte ']' :: rest)
    have hitems := returns_readItems [] rest (List.cons_ne_nil v more) exact reads (Nat.le_refl _)
    rw [hhead] at hitems ⊢
    simp only [skipSpace_cons hspace, if_neg hclose]
    exact hitems

/-! ## Members -/

/-- A member is read back from its text, after the opening quote of its name. -/
theorem returns_readMember {k : String} {v : Value} (reads : ReadsBack item depth v)
    (ends : EndsNumeral rest) :
    Returns (v.nesting ≤ depth) ((k, v), rest)
      (readMember item (encoded (k.toList.flatMap escaped) ++ Text.byte '"' :: Text.byte ':' ::
        (encoded v.chars ++ rest))) := by
  unfold readMember
  rw [readString_escaped]
  have hnamed : Returns True ((k, v), rest) (.ok ((k, v), rest)) := .of_ok rfl
  exact ((reads rest ends).bind hnamed).congr (and_iff_left trivial).symm

/-- The text of a name starts with a quote, which no numeral goes on with. -/
theorem encoded_stringChars (k : String) :
    encoded (stringChars k) =
      Text.byte '"' :: (encoded (k.toList.flatMap escaped) ++ [Text.byte '"']) := by
  rw [stringChars, List.cons_append, encoded_cons (by decide), encoded_append]
  rfl

/-- The text of the last member. -/
theorem encoded_member (k : String) (v : Value) (rest : List UInt8) :
    encoded (membersChars [(k, v)]) ++ rest = Text.byte '"' ::
      (encoded (k.toList.flatMap escaped) ++ Text.byte '"' :: Text.byte ':' ::
        (encoded v.chars ++ rest)) := by
  simp only [membersChars, encoded_append, encoded_stringChars,
    encoded_cons (show (':').toNat < 0x80 by decide), List.cons_append, List.append_assoc,
    List.nil_append]

/-- The text of a member that others follow. -/
theorem encoded_members (k : String) (v : Value) (next : String × Value)
    (more : List (String × Value)) (rest : List UInt8) :
    encoded (membersChars ((k, v) :: next :: more)) ++ rest = Text.byte '"' ::
      (encoded (k.toList.flatMap escaped) ++ Text.byte '"' :: Text.byte ':' ::
        (encoded v.chars ++ Text.byte ',' :: (encoded (membersChars (next :: more)) ++ rest))) := by
  simp only [membersChars, encoded_append, encoded_stringChars,
    encoded_cons (show (':').toNat < 0x80 by decide),
    encoded_cons (show (',').toNat < 0x80 by decide), List.cons_append, List.append_assoc,
    List.nil_append]

/-- Members start with the quote of their first name. -/
theorem encoded_head_members (member : String × Value) (more : List (String × Value))
    (rest : List UInt8) :
    ∃ text, encoded (membersChars (member :: more)) ++ rest = Text.byte '"' :: text := by
  cases more with
  | nil => exact ⟨_, encoded_member member.1 member.2 rest⟩
  | cons next more => exact ⟨_, encoded_members member.1 member.2 next more rest⟩

theorem returns_readMembers {members : List (String × Value)} {text : List UInt8}
    (read : List (String × Value)) (reads : ∀ member ∈ members, ReadsBack item depth member.2)
    (ne : members ≠ [])
    (htext : encoded (membersChars members) ++ Text.byte closeBrace :: rest =
      Text.byte '"' :: text)
    (hfuel : text.length ≤ fuel) :
    Returns (membersNesting members ≤ depth) (read.reverse ++ members, rest)
      (readMembers item fuel read text) := by
  induction members generalizing fuel read text with
  | nil => exact absurd rfl ne
  | cons member more ih =>
    obtain ⟨k, v⟩ := member
    obtain ⟨hv, hmore⟩ := List.forall_mem_cons.mp reads
    cases more with
    | nil =>
      rw [encoded_member] at htext
      obtain rfl := (List.cons.inj htext).2
      obtain ⟨fuel, rfl⟩ : ∃ k, fuel = k + 1 := ⟨fuel - 1, by simp at hfuel; omega⟩
      have hclose : EndsNumeral (Text.byte closeBrace :: rest) := endsNumeral_cons (by decide) _
      rw [readMembers]
      refine ((returns_readMember hv hclose).bind (.of_ok ?_)).congr (by simp [membersNesting])
      simp [skipSpace_cons (show isSpaceByte (Text.byte closeBrace) = false by decide)]
    | cons next more =>
      rw [encoded_members] at htext
      obtain rfl := (List.cons.inj htext).2
      obtain ⟨text, hnext⟩ := encoded_head_members next more (Text.byte closeBrace :: rest)
      rw [hnext] at hfuel ⊢
      simp only [List.length_append, List.length_cons] at hfuel
      obtain ⟨fuel, rfl⟩ : ∃ k, fuel = k + 1 := ⟨fuel - 1, by omega⟩
      have hcomma : EndsNumeral (Text.byte ',' :: Text.byte '"' :: text) :=
        endsNumeral_cons (by decide) _
      have hrest := ih ((k, v) :: read) hmore (by simp) hnext (show text.length ≤ fuel by omega)
      rw [readMembers, membersNesting, propext Nat.max_le]
      refine (returns_readMember hv hcomma).bind ?_
      simp only [skipSpace_cons (show isSpaceByte (Text.byte ',') = false by decide),
        if_neg (show Text.byte ',' ≠ Text.byte closeBrace by decide), if_true,
        skipSpace_cons (show isSpaceByte (Text.byte '"') = false by decide)]
      simpa using hrest

theorem returns_readObject {members : List (String × Value)}
    (reads : ∀ member ∈ members, ReadsBack item depth member.2) (rest : List UInt8) :
    Returns (membersNesting members ≤ depth) (members, rest)
      (readObject item (encoded (membersChars members) ++ Text.byte closeBrace :: rest)) := by
  unfold readObject
  cases members with
  | nil => exact (Returns.of_ok rfl).congr (by simp [membersNesting])
  | cons member more =>
    obtain ⟨text, htext⟩ := encoded_head_members member more (Text.byte closeBrace :: rest)
    rw [htext]
    simp only [skipSpace_cons (show isSpaceByte (Text.byte '"') = false by decide),
      if_neg (show Text.byte '"' ≠ Text.byte closeBrace by decide), if_true]
    exact returns_readMembers [] reads (List.cons_ne_nil _ _) htext (Nat.le_succ _)

end Reading

/-! ## Members in order -/

namespace Members

theorem insert_last {members : Members} {name : String} {value : Value}
    (last : ∀ other ∈ members.names, Text.Precedes other name) :
    insert name value members = members ++ [(name, value)] := by
  induction members with
  | nil => rfl
  | cons member members ih =>
    obtain ⟨other, v⟩ := member
    obtain ⟨hother, hmembers⟩ := List.forall_mem_cons.mp last
    have hne : name ≠ other := by
      rintro rfl
      exact Std.Irrefl.irrefl _ hother
    have hafter : ¬ Text.Precedes name other := fun hbefore =>
      hne (Std.Antisymm.antisymm _ _ hbefore hother)
    rw [insert, if_neg hne, if_neg hafter, ih hmembers, List.cons_append]

/-- Members that stand in order already stay as they are. -/
theorem ofList_of_pairwise {members : Members} (order : members.names.Pairwise Text.Precedes) :
    ofList members = members := by
  have hfold : ∀ (rest placed : Members), (placed ++ rest).names.Pairwise Text.Precedes →
      rest.foldl (fun members pair => insert pair.1 pair.2 members) placed = placed ++ rest := by
    intro rest
    induction rest with
    | nil => exact fun placed _ => (List.append_nil placed).symm
    | cons member rest ih =>
      intro placed horder
      have hlast : ∀ other ∈ placed.names, Text.Precedes other member.1 := by
        rw [names, List.map_append, List.pairwise_append] at horder
        exact fun other hother => horder.2.2 other hother _ List.mem_cons_self
      rw [List.foldl_cons, insert_last hlast, ih _ (by rwa [List.append_cons] at horder)]
      exact (List.append_cons placed member rest).symm
  exact hfold members [] order

end Members

/-! ## Values -/

section Scalars

variable {rest : List UInt8}

/-- A minus starts a number, and so does a digit. -/
theorem readScalar_minus (text : List UInt8) :
    readScalar (Text.byte '-' :: text) =
      (readNumber true text >>= fun read => .ok (Value.number read.1, read.2)) :=
  rfl

theorem readScalar_digit {b : UInt8} (h : isDigitByte b = true) (text : List UInt8) :
    readScalar (b :: text) =
      (readNumber false (b :: text) >>= fun read => .ok (Value.number read.1, read.2)) := by
  have hne (c : UInt8) (hc : isDigitByte c = false) : b ≠ c := by
    rintro rfl
    exact absurd h (by simp [hc])
  simp only [readScalar, if_neg (hne (Text.byte 'n') (by decide)),
    if_neg (hne (Text.byte 't') (by decide)), if_neg (hne (Text.byte 'f') (by decide)),
    if_neg (hne (Text.byte '"') (by decide)), if_neg (hne (Text.byte '-') (by decide)), if_pos h]

theorem readScalar_string (s : String) :
    readScalar (encoded (Value.string s).chars ++ rest) = .ok (.string s, rest) := by
  have htext : encoded (Value.string s).chars ++ rest = Text.byte '"' ::
      (encoded (s.toList.flatMap escaped) ++ Text.byte '"' :: rest) := by
    rw [Value.chars, encoded_stringChars, List.cons_append, List.append_assoc]
    rfl
  have hquote (text : List UInt8) : readScalar (Text.byte '"' :: text) =
      (readString text >>= fun read => .ok (Value.string read.1, read.2)) := rfl
  rw [htext, hquote, readString_escaped]
  rfl

theorem readScalar_whole {n : Int} (low : Number.leastWhole ≤ n) (high : n ≤ Number.greatestWhole)
    (ends : EndsNumeral rest) :
    readScalar (encoded (Value.number (.whole n)).chars ++ rest) =
      .ok (.number (.whole n), rest) := by
  unfold Number.leastWhole at low
  unfold Number.greatestWhole at high
  rw [Value.chars, Number.chars, wholeText]
  split
  · rename_i hneg
    have hnumber : wholeOrFloat true n.natAbs = .whole n := by
      rw [wholeOrFloat, if_pos rfl, if_neg (by omega)]
      exact congrArg Number.whole (by omega)
    rw [encoded_cons (by decide), List.cons_append, readScalar_minus,
      readNumber_digits (by unfold maxUInt64; omega) ends, hnumber]
    rfl
  · rename_i hpos
    have hnumber : wholeOrFloat false n.toNat = .whole n := by
      rw [wholeOrFloat, if_neg (by decide)]
      exact congrArg Number.whole (by omega)
    have hread : readNumber false (encoded (Nat.toDigits 10 n.toNat) ++ rest) =
        .ok (.whole n, rest) := by
      rw [readNumber_digits (by unfold maxUInt64; omega) ends, hnumber]
    obtain ⟨c, cs, hcs, hdigit⟩ := exists_head_toDigits n.toNat
    rw [hcs, encoded_cons (toNat_lt_of_isDigit hdigit), List.cons_append] at hread ⊢
    rw [readScalar_digit (isDigitByte_byte hdigit), hread]
    rfl

end Scalars

theorem Value.IsExact.readsBack_flat {v : Value} {depth : Nat} (h : v.IsExact)
    (flat : v.nesting = 0)
    (reads : ∀ rest, EndsNumeral rest → readScalar (encoded v.chars ++ rest) = .ok (v, rest)) :
    ReadsBack (readValue depth) depth v := by
  intro rest ends
  obtain ⟨b, bs, hbs, hspace, _, hopens⟩ := h.encoded_head
  have hread := reads rest ends
  rw [hbs, List.cons_append] at hread ⊢
  rw [readValue, readNested_of_scalar (skipSpace_cons hspace _) (hopens flat).1 (hopens flat).2,
    hread, flat]
  exact (Returns.of_ok rfl).congr (iff_true_intro (Nat.zero_le depth))

/-- A value without floating point numbers is read back from its compact text at every depth
that is no less than the nesting of its brackets. With less the text is refused. -/
theorem Value.IsExact.readsBack {v : Value} (h : v.IsExact) (depth : Nat) :
    ReadsBack (readValue depth) depth v := by
  induction h generalizing depth with
  | null => exact IsExact.null.readsBack_flat rfl fun _ _ => rfl
  | bool b => exact (IsExact.bool b).readsBack_flat rfl fun _ _ => by cases b <;> rfl
  | whole low high =>
    exact (IsExact.whole low high).readsBack_flat rfl fun _ ends => readScalar_whole low high ends
  | string s => exact (IsExact.string s).readsBack_flat rfl fun _ _ => readScalar_string s
  | @array items exact ih =>
    intro rest ends
    have htext : encoded (Value.array items).chars ++ rest =
        Text.byte '[' :: (encoded (itemsChars items) ++ Text.byte ']' :: rest) := by
      rw [Value.chars, List.cons_append, encoded_cons (by decide), encoded_append,
        List.cons_append, List.append_assoc]
      rfl
    rw [htext, Value.nesting]
    cases depth with
    | zero => exact ⟨fun hle => absurd hle (by omega), fun _ => ⟨_, rfl⟩⟩
    | succ depth =>
      have hitems := returns_readArray exact (fun v hv => ih v hv depth) rest
      have harray : Returns True (Value.array items, rest) (.ok (.array items, rest)) := .of_ok rfl
      exact (hitems.bind harray).congr (by simp)
  | @object members order exact ih =>
    intro rest ends
    have htext : encoded (Value.object members).chars ++ rest = Text.byte openBrace ::
        (encoded (membersChars members) ++ Text.byte closeBrace :: rest) := by
      rw [Value.chars, List.cons_append, encoded_cons (by decide), encoded_append,
        List.cons_append, List.append_assoc]
      rfl
    rw [htext, Value.nesting]
    cases depth with
    | zero => exact ⟨fun hle => absurd hle (by omega), fun _ => ⟨_, rfl⟩⟩
    | succ depth =>
      have hmembers := returns_readObject (fun member hm => ih member hm depth) rest
      have hobject : Returns True (Value.object members, rest)
          (.ok (.object (Members.ofList members), rest)) := by
        rw [Members.ofList_of_pairwise order]
        exact .of_ok rfl
      exact (hmembers.bind hobject).congr (by simp)

end TableGateway.Json
