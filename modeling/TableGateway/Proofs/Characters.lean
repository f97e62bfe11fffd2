import Mathlib.Data.List.Basic
import TableGateway.Text.Bytes
import TableGateway.Text.Utf8

-- The laws of characters and their bytes. The bytes of a text are read as that text, whatever
-- characters it has.

namespace TableGateway

namespace Utf8

/-! ## One byte -/

theorem toNat_ofNat {n : Nat} (h : n < 256) : (UInt8.ofNat n).toNat = n :=
  UInt8.toNat_ofNat_of_lt' h

theorem piecesFrom_whole {byte : UInt8} {c : Char} (h : opening byte = .whole c)
    (rest : List UInt8) : piecesFrom none (byte :: rest) = some c :: piecesFrom none rest := by
  simp [piecesFrom, step, h, Opening.settle]

theorem piecesFrom_part {byte : UInt8} {p : Pending} (h : opening byte = .part p)
    (rest : List UInt8) : piecesFrom none (byte :: rest) = piecesFrom (some p) rest := by
  simp [piecesFrom, step, h, Opening.settle]

/-- A byte in the range of a character under way goes on with it. -/
theorem piecesFrom_extend {p : Pending} {n : Nat} (low : p.low ≤ n) (high : n ≤ p.high)
    (byte : n < 256) (due : 1 < p.due) (rest : List UInt8) :
    piecesFrom (some p) (UInt8.ofNat n :: rest) =
      piecesFrom (some ⟨p.bits * 64 + (n - 0x80), p.due - 1, 0x80, 0xBF⟩) rest := by
  have hextend : p.extend (UInt8.ofNat n) =
      .part ⟨p.bits * 64 + (n - 0x80), p.due - 1, 0x80, 0xBF⟩ := by
    simp [Pending.extend, toNat_ofNat byte, low, high, Nat.not_le.mpr due]
  simp [piecesFrom, step, hextend, Opening.settle]

/-- The last byte of a character under way makes it whole. -/
theorem piecesFrom_last {p : Pending} {n : Nat} (low : p.low ≤ n) (high : n ≤ p.high)
    (byte : n < 256) (due : p.due = 1) (rest : List UInt8) :
    piecesFrom (some p) (UInt8.ofNat n :: rest) =
      some (Char.ofNat (p.bits * 64 + (n - 0x80))) :: piecesFrom none rest := by
  have hextend : p.extend (UInt8.ofNat n) = .whole (Char.ofNat (p.bits * 64 + (n - 0x80))) := by
    simp [Pending.extend, toNat_ofNat byte, low, high, due]
  simp [piecesFrom, step, hextend, Opening.settle]

/-! ## One character -/

/-- The first of two bytes. -/
theorem opening_of_two {v : Nat} (low : 0x80 ≤ v) (high : v < 0x800) :
    opening (UInt8.ofNat (v / 64 % 32 + 192)) = .part ⟨v / 64, 1, 0x80, 0xBF⟩ := by
  have hn : v / 64 % 32 + 192 = v / 64 + 0xC0 := by omega
  simp only [hn, opening, toNat_ofNat (show v / 64 + 0xC0 < 256 by omega)]
  rw [if_neg (by omega), if_neg (by omega), if_pos (by omega), Nat.add_sub_cancel]

/-- The first of three bytes, and the range that the second one lies in. -/
theorem opening_of_three {v : Nat} (low : 0x800 ≤ v) (high : v < 0x10000)
    (valid : v < 0xD800 ∨ 0xDFFF < v) :
    ∃ least greatest, opening (UInt8.ofNat (v / 4096 % 16 + 224)) =
        .part ⟨v / 4096, 2, least, greatest⟩ ∧
      least ≤ v / 64 % 64 + 128 ∧ v / 64 % 64 + 128 ≤ greatest := by
  have hn : v / 4096 % 16 + 224 = v / 4096 + 0xE0 := by omega
  simp only [hn, opening, toNat_ofNat (show v / 4096 + 0xE0 < 256 by omega)]
  rw [if_neg (by omega), if_neg (by omega), if_neg (by omega)]
  -- Overlong forms are left out after the least first byte, and surrogates after one other.
  by_cases hfirst : v / 4096 = 0
  · refine ⟨0xA0, 0xBF, ?_, by omega, by omega⟩
    rw [if_pos (by omega), hfirst]
  · by_cases hsurrogate : v / 4096 = 0xD
    · refine ⟨0x80, 0x9F, ?_, by omega, by omega⟩
      rw [if_neg (by omega), if_pos (by omega), hsurrogate]
    · refine ⟨0x80, 0xBF, ?_, by omega, by omega⟩
      rw [if_neg (by omega), if_neg (by omega), if_pos (by omega), Nat.add_sub_cancel]

/-- The first of four bytes, and the range that the second one lies in. -/
theorem opening_of_four {v : Nat} (low : 0x10000 ≤ v) (high : v < 0x110000) :
    ∃ least greatest, opening (UInt8.ofNat (v / 262144 % 8 + 240)) =
        .part ⟨v / 262144, 3, least, greatest⟩ ∧
      least ≤ v / 4096 % 64 + 128 ∧ v / 4096 % 64 + 128 ≤ greatest := by
  have hn : v / 262144 % 8 + 240 = v / 262144 + 0xF0 := by omega
  simp only [hn, opening, toNat_ofNat (show v / 262144 + 0xF0 < 256 by omega)]
  rw [if_neg (by omega), if_neg (by omega), if_neg (by omega), if_neg (by omega),
    if_neg (by omega), if_neg (by omega)]
  -- Overlong forms are left out after the least first byte, and what is too great after the last.
  by_cases hfirst : v / 262144 = 0
  · refine ⟨0x90, 0xBF, ?_, by omega, by omega⟩
    rw [if_pos (by omega), hfirst]
  · by_cases hlast : v / 262144 = 4
    · refine ⟨0x80, 0x8F, ?_, by omega, by omega⟩
      rw [if_neg (by omega), if_neg (by omega), if_pos (by omega), hlast]
    · refine ⟨0x80, 0xBF, ?_, by omega, by omega⟩
      rw [if_neg (by omega), if_pos (by omega), Nat.add_sub_cancel]

/-- The bytes of a character are read as that character. -/
theorem piecesFrom_encoded (c : Char) (rest : List UInt8) :
    piecesFrom none (String.utf8EncodeChar c ++ rest) = some c :: piecesFrom none rest := by
  have hvalid : c.val.toNat < 0xD800 ∨ 0xDFFF < c.val.toNat ∧ c.val.toNat < 0x110000 := c.valid
  have hchar : ∀ n, n = c.val.toNat → Char.ofNat n = c := fun n hn => by
    rw [hn]
    exact Char.ofNat_toNat c
  unfold String.utf8EncodeChar
  generalize c.val.toNat = v at hvalid hchar ⊢
  -- A character has as many bytes as its number needs.
  simp only
  split_ifs with hone htwo hthree
  · refine piecesFrom_whole ?_ rest
    rw [opening, toNat_ofNat (by omega)]
    simp only [if_pos (show v < 0x80 by omega), hchar v rfl]
  · rw [List.cons_append, piecesFrom_part (opening_of_two (by omega) (by omega)), List.cons_append,
      piecesFrom_last (by simp) (by simp; omega) (by omega) rfl, hchar _ (by simp; omega),
      List.nil_append]
  · obtain ⟨least, greatest, hopening, hlow, hhigh⟩ :=
      opening_of_three (v := v) (by omega) (by omega) (by omega)
    rw [List.cons_append, piecesFrom_part hopening, List.cons_append,
      piecesFrom_extend hlow hhigh (by omega) (by simp), List.cons_append,
      piecesFrom_last (by simp) (by simp; omega) (by omega) rfl, hchar _ (by simp; omega),
      List.nil_append]
  · obtain ⟨least, greatest, hopening, hlow, hhigh⟩ :=
      opening_of_four (v := v) (by omega) (by omega)
    rw [List.cons_append, piecesFrom_part hopening, List.cons_append,
      piecesFrom_extend hlow hhigh (by omega) (by simp), List.cons_append,
      piecesFrom_extend (by simp) (by simp; omega) (by omega) (by simp), List.cons_append,
      piecesFrom_last (by simp) (by simp; omega) (by omega) rfl, hchar _ (by simp; omega),
      List.nil_append]

/-! ## Texts -/

theorem pieces_bytes (cs : List Char) :
    pieces (cs.flatMap String.utf8EncodeChar) = cs.map some := by
  induction cs with
  | nil => rfl
  | cons c cs ih =>
    rw [List.flatMap_cons, pieces, piecesFrom_encoded, List.map_cons, ← ih, pieces]

theorem mapM_some (cs : List Char) : (cs.map some).mapM id = some cs := by
  induction cs with
  | nil => rfl
  | cons c cs ih => simp [ih]

/-- The bytes of a text are read as that text. -/
theorem decode?_bytes (s : String) : decode? (Text.bytes s) = some s := by
  rw [decode?, Text.bytes, pieces_bytes, mapM_some, Option.map_some, String.ofList_toList]

theorem lossy_bytes (s : String) : lossy (Text.bytes s) = s := by
  have hpieces (cs : List Char) :
      ((cs.map some).map fun piece => piece.getD (Char.ofNat 0xFFFD)) = cs := by
    rw [List.map_map]
    exact List.map_id cs
  rw [lossy, Text.bytes, pieces_bytes, hpieces, String.ofList_toList]

end Utf8

namespace Text

/-! ## Bytes of characters -/

theorem toNat_byte {c : Char} (h : c.toNat < 256) : (byte c).toNat = c.toNat :=
  Utf8.toNat_ofNat h

/-- A character below U+0080 is one byte. -/
theorem utf8EncodeChar_of_lt {c : Char} (h : c.toNat < 0x80) :
    String.utf8EncodeChar c = [byte c] := by
  have hone : c.val.toNat ≤ 127 := Nat.le_of_lt_succ h
  simp only [String.utf8EncodeChar, if_pos hone]
  rfl

/-- All bytes of a character above U+007F lie above the byte 7F. -/
theorem le_of_mem_utf8EncodeChar {c : Char} (h : 0x80 ≤ c.toNat) {b : UInt8}
    (hb : b ∈ String.utf8EncodeChar c) : 0x80 ≤ b.toNat := by
  have hvalid := c.valid
  change 0x80 ≤ c.val.toNat at h
  unfold String.utf8EncodeChar at hb
  generalize c.val.toNat = v at h hb
  simp only [if_neg (show ¬ v ≤ 127 by omega)] at hb
  split_ifs at hb <;> simp only [List.mem_cons, List.not_mem_nil, or_false] at hb
  · rcases hb with rfl | rfl <;> rw [Utf8.toNat_ofNat (by omega)] <;> omega
  · rcases hb with rfl | rfl | rfl <;> rw [Utf8.toNat_ofNat (by omega)] <;> omega
  · rcases hb with rfl | rfl | rfl | rfl <;> rw [Utf8.toNat_ofNat (by omega)] <;> omega

/-- A byte of a character below U+0080 is none of any other character. -/
theorem byte_not_mem_utf8EncodeChar {c d : Char} (ascii : d.toNat < 0x80) (other : c ≠ d) :
    byte d ∉ String.utf8EncodeChar c := by
  intro hmem
  by_cases hc : c.toNat < 0x80
  · rw [utf8EncodeChar_of_lt hc, List.mem_singleton] at hmem
    have hnat := congrArg UInt8.toNat hmem
    rw [toNat_byte (by omega), toNat_byte (by omega)] at hnat
    exact other (Char.toNat_inj.mp hnat.symm)
  · have hhigh := le_of_mem_utf8EncodeChar (Nat.le_of_not_lt hc) hmem
    rw [toNat_byte (by omega)] at hhigh
    omega

theorem byte_not_mem_bytes {c : Char} {s : String} (ascii : c.toNat < 0x80)
    (free : c ∉ s.toList) : byte c ∉ bytes s := by
  intro hmem
  obtain ⟨d, hd, hbyte⟩ := List.mem_flatMap.mp hmem
  exact byte_not_mem_utf8EncodeChar ascii (fun heq => free (heq ▸ hd)) hbyte

end Text

end TableGateway
