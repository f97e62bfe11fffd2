import TableGateway.Json.Number

-- Base64: bytes as characters of six bits each. One alphabet goes without
-- padding, and the other one with it.

namespace TableGateway.Base64

/-! ## Alphabets -/

/-- The sixty-four characters, and whether equals signs fill the last four. -/
structure Alphabet where
  symbols : List UInt8
  isPadded : Bool
deriving Repr

/-- The letters and digits, in the order of their values. -/
def lettersAndDigits : List UInt8 :=
  ((List.range 26).map (· + 0x41) ++ (List.range 26).map (· + 0x61) ++
    (List.range 10).map (· + 0x30)).map UInt8.ofNat

/-- The alphabet for addresses: minus and underscore, no padding. -/
def forUrls : Alphabet :=
  ⟨lettersAndDigits ++ [0x2D, 0x5F], false⟩

/-- The alphabet for mail: plus and slash, with padding. -/
def forMail : Alphabet :=
  ⟨lettersAndDigits ++ [0x2B, 0x2F], true⟩

/-- The value of a character. -/
def Alphabet.value? (alphabet : Alphabet) (symbol : UInt8) : Option Nat :=
  alphabet.symbols.idxOf? symbol

/-- The character of a value. -/
def Alphabet.symbol (alphabet : Alphabet) (value : Nat) : UInt8 :=
  alphabet.symbols.getD value 0

/-! ## Writing -/

/-- The characters of three bytes, or of the one or two at the end. -/
def encode (alphabet : Alphabet) : List UInt8 → List UInt8
  | [] => []
  | [a] =>
    let n := a.toNat * 16
    [alphabet.symbol (n / 64), alphabet.symbol (n % 64)] ++
      if alphabet.isPadded then [0x3D, 0x3D] else []
  | [a, b] =>
    let n := (a.toNat * 256 + b.toNat) * 4
    [alphabet.symbol (n / 4096), alphabet.symbol (n / 64 % 64), alphabet.symbol (n % 64)] ++
      if alphabet.isPadded then [0x3D] else []
  | a :: b :: c :: rest =>
    let n := (a.toNat * 256 + b.toNat) * 256 + c.toNat
    [alphabet.symbol (n / 262144), alphabet.symbol (n / 4096 % 64),
      alphabet.symbol (n / 64 % 64), alphabet.symbol (n % 64)] ++ encode alphabet rest

/-! ## Faults -/

/-- Why a text is refused. -/
inductive Fault where
  | symbol (byte : UInt8) (offset : Nat)
  | length (count : Nat)
  | lastSymbol (byte : UInt8) (offset : Nat)
  | padding
deriving Repr, DecidableEq

/-- A number in decimal. -/
def decimal (n : Nat) : String :=
  (Json.Number.whole n).text

/-- The words for a fault. -/
def Fault.message : Fault → String
  | .symbol byte offset =>
    "Invalid symbol " ++ decimal byte.toNat ++ ", offset " ++ decimal offset ++ "."
  | .length count => "Invalid input length: " ++ decimal count
  | .lastSymbol byte offset =>
    "Invalid last symbol " ++ decimal byte.toNat ++ ", offset " ++ decimal offset ++ "."
  | .padding => "Invalid padding"

/-! ## Reading -/

/-- The values of characters, or the first one that has none. -/
def values (alphabet : Alphabet) : Nat → List UInt8 → Except Fault (List Nat)
  | _, [] => .ok []
  | offset, b :: rest =>
    match alphabet.value? b with
    | none => .error (.symbol b offset)
    | some v => (values alphabet (offset + 1) rest).map (v :: ·)

/-- The bytes of values, four at a time, without bits that make no byte. -/
def bytesOf : List Nat → List UInt8
  | a :: b :: c :: d :: rest =>
    let n := ((a * 64 + b) * 64 + c) * 64 + d
    UInt8.ofNat (n / 65536) :: UInt8.ofNat (n / 256 % 256) :: UInt8.ofNat (n % 256) ::
      bytesOf rest
  | [a, b, c] =>
    let n := ((a * 64 + b) * 64 + c) / 4
    [UInt8.ofNat (n / 256), UInt8.ofNat (n % 256)]
  | [a, b] => [UInt8.ofNat ((a * 64 + b) / 16)]
  | _ => []

/-- The bits of the last value that make no byte. -/
def spareBits : List Nat → Nat
  | [_, v] => v % 16
  | [_, _, v] => v % 4
  | _ => 0

/-- The equals sign. -/
def padByte : UInt8 := 0x3D

/-- The last characters, of which there are at most four, and their padding. -/
def lastValues (alphabet : Alphabet) (offset : Nat) (last : List UInt8) :
    Except Fault (List Nat) := do
  let symbols := last.takeWhile (· != padByte)
  let padding := last.dropWhile (· != padByte)
  let vs ← values alphabet offset symbols
  if padding ≠ [] ∧ symbols.length < 2 then .error (.symbol padByte (offset + symbols.length))
  else if padding.any (· != padByte) then .error (.symbol padByte (offset + symbols.length))
  else if last ≠ [] ∧ symbols.length < 2 then .error (.length (offset + symbols.length))
  else if alphabet.isPadded then
    if last.length % 4 ≠ 0 then .error .padding else return vs
  else if padding ≠ [] then .error .padding
  else return vs

/-- The bytes of a text. A single character at the end is looked at first. -/
def decode (alphabet : Alphabet) (text : List UInt8) : Except Fault (List UInt8) := do
  let n := text.length
  let whole := if n % 4 = 0 then n - 4 else n - n % 4
  let single := text.getLastD 0
  if n % 4 = 1 ∧ single ≠ padByte ∧ (alphabet.value? single).isNone then
    .error (.symbol single (n - 1))
  else
    let front ← values alphabet 0 (text.take whole)
    let back ← lastValues alphabet whole (text.drop whole)
    if spareBits back ≠ 0 then
      .error (.lastSymbol ((text.drop whole).getD (back.length - 1) 0) (whole + back.length - 1))
    else return bytesOf front ++ bytesOf back

end TableGateway.Base64
