-- Reading UTF-8. Bytes are cut into characters and broken parts. A broken
-- part is as long as it can be: it ends at the first byte that no
-- character with those first bytes could have.

namespace TableGateway.Utf8

/-! ## One character at a time -/

/-- A character whose first bytes are read: the number they make, how many
bytes are still due, and the range that the next one lies in. -/
structure Pending where
  bits : Nat
  due : Nat
  low : Nat
  high : Nat
deriving Repr, DecidableEq

/-- What a byte makes when no character is under way: a whole character, the
first part of one, or nothing. -/
inductive Opening where
  | whole (c : Char)
  | part (p : Pending)
  | broken
deriving Repr, DecidableEq

/-- The first byte of a character tells its length. Ranges of the second byte
leave out overlong forms, surrogates and numbers above U+10FFFF. -/
def opening (byte : UInt8) : Opening :=
  let n := byte.toNat
  if n < 0x80 then .whole (Char.ofNat n)
  else if n < 0xC2 then .broken
  else if n < 0xE0 then .part ⟨n - 0xC0, 1, 0x80, 0xBF⟩
  else if n = 0xE0 then .part ⟨0, 2, 0xA0, 0xBF⟩
  else if n = 0xED then .part ⟨0xD, 2, 0x80, 0x9F⟩
  else if n < 0xF0 then .part ⟨n - 0xE0, 2, 0x80, 0xBF⟩
  else if n = 0xF0 then .part ⟨0, 3, 0x90, 0xBF⟩
  else if n < 0xF4 then .part ⟨n - 0xF0, 3, 0x80, 0xBF⟩
  else if n = 0xF4 then .part ⟨4, 3, 0x80, 0x8F⟩
  else .broken

/-- Takes the next byte of a character that is under way. -/
def Pending.extend (p : Pending) (byte : UInt8) : Opening :=
  let n := byte.toNat
  if p.low ≤ n ∧ n ≤ p.high then
    let bits := p.bits * 64 + (n - 0x80)
    if p.due ≤ 1 then .whole (Char.ofNat bits)
    else .part ⟨bits, p.due - 1, 0x80, 0xBF⟩
  else .broken

/-- What one byte settles: the characters and broken parts that end here, and
what is under way after it. -/
def Opening.settle : Opening → List (Option Char) × Option Pending
  | .whole c => ([some c], none)
  | .part p => ([], some p)
  | .broken => ([none], none)

/-- One byte. A byte that does not go on with the character under way breaks
that character and then stands for itself. -/
def step : Option Pending → UInt8 → List (Option Char) × Option Pending
  | none, byte => (opening byte).settle
  | some p, byte =>
    match p.extend byte with
    | .broken =>
      let fresh := (opening byte).settle
      (none :: fresh.1, fresh.2)
    | going => going.settle

/-! ## Whole byte sequences -/

/-- The characters and broken parts after a first part that is under way. -/
def piecesFrom : Option Pending → List UInt8 → List (Option Char)
  | none, [] => []
  | some _, [] => [none]
  | state, byte :: rest =>
    let settled := step state byte
    settled.1 ++ piecesFrom settled.2 rest

/-- The characters of a byte sequence, with `none` for each broken part. -/
def pieces (bytes : List UInt8) : List (Option Char) :=
  piecesFrom none bytes

/-- The text of the bytes, if no part is broken. -/
def decode? (bytes : List UInt8) : Option String :=
  ((pieces bytes).mapM id).map String.ofList

/-- The text of the bytes, with U+FFFD for each broken part. -/
def lossy (bytes : List UInt8) : String :=
  String.ofList ((pieces bytes).map fun piece => piece.getD (Char.ofNat 0xFFFD))

/-! ## The first break -/

/-- The first broken part of a byte sequence: how many bytes come before it, and its
length, or none for a character that is cut off by the end. -/
structure Break where
  index : Nat
  length : Option Nat
deriving Repr, DecidableEq

/-- The first break after `index` sound bytes and a character of which `taken` bytes
are read. -/
def breakFrom (index taken : Nat) : Option Pending → List UInt8 → Option Break
  | none, [] => none
  | some _, [] => some ⟨index, none⟩
  | none, byte :: rest =>
    match opening byte with
    | .whole _ => breakFrom (index + 1) 0 none rest
    | .part p => breakFrom index 1 (some p) rest
    | .broken => some ⟨index, some 1⟩
  | some p, byte :: rest =>
    match p.extend byte with
    | .whole _ => breakFrom (index + taken + 1) 0 none rest
    | .part p => breakFrom index (taken + 1) (some p) rest
    | .broken => some ⟨index, some taken⟩

/-- The first broken part, if there is one. -/
def firstBreak? (bytes : List UInt8) : Option Break :=
  breakFrom 0 0 none bytes

/-- How many bytes come before the first broken part. -/
def validLength (bytes : List UInt8) : Nat :=
  ((firstBreak? bytes).map Break.index).getD bytes.length

end TableGateway.Utf8
