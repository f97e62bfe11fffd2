import TableGateway.Coding.Brotli.Contexts

-- Commands: how many literals to take, how many bytes to repeat after them, and from
-- how far back.

namespace TableGateway.Coding.Brotli

/-! ## Lengths -/

/-- The number of symbols for commands. -/
def commandSymbols : Nat := 704

/-- The least number of literals for each code, and the bits that add to it. -/
def insertSteps : Array (Nat × Nat) :=
  (Steps.ofWidths 0 (List.replicate 6 0 ++
    [1, 1, 2, 2, 3, 3, 4, 4, 5, 5, 6, 7, 8, 9, 10, 12, 14, 24])).toArray

/-- The least number of repeated bytes for each code, and the bits that add to it. -/
def copySteps : Array (Nat × Nat) :=
  (Steps.ofWidths 2 (List.replicate 8 0 ++
    [1, 1, 2, 2, 3, 3, 4, 4, 5, 5, 6, 7, 8, 9, 10, 24])).toArray

/-- The first codes of both lengths for every sixty-four symbols. -/
def commandCells : Array (Nat × Nat) :=
  #[(0, 0), (0, 8), (0, 0), (0, 8), (8, 0), (8, 8), (0, 16), (16, 0), (8, 16), (16, 8), (16, 16)]

/-- A command: the number of literals, the number of repeated bytes, and whether the last
distance is meant without saying so. -/
structure Command where
  insert : Nat
  copy : Nat
  isNear : Bool
deriving Repr, DecidableEq

/-- Reads a command. -/
def Command.read (code : SymbolCode) (bits : Bits) : Except Stop (Command × Bits) := do
  let (symbol, bits) ← code.read bits
  let (insertCode, copyCode) := commandCells.getD (symbol / 64) (0, 0)
  let (insert, bits) ← Steps.read insertSteps (insertCode + symbol / 8 % 8) bits
  let (copy, bits) ← Steps.read copySteps (copyCode + symbol % 8) bits
  .ok ({ insert, copy, isNear := symbol < 128 }, bits)

/-! ## Distances -/

/-- How distances are written: the number of their low bits that are told by symbols, and
how many of them have symbols of their own. -/
structure DistanceForm where
  lowBits : Nat
  direct : Nat
deriving Repr, DecidableEq

namespace DistanceForm

/-- Reads the form. -/
def read (bits : Bits) : Except Stop (DistanceForm × Bits) := do
  let (lowBits, bits) ← bits.take 2
  let (direct, bits) ← bits.take 4
  .ok ({ lowBits, direct := direct * Nat.pow 2 lowBits }, bits)

/-- The number of symbols for distances. -/
def symbols (form : DistanceForm) : Nat :=
  16 + form.direct + 48 * Nat.pow 2 form.lowBits

/-- The distance of a symbol that does not mean one of the last ones. -/
def far (form : DistanceForm) (symbol : Nat) (bits : Bits) : Except Stop (Nat × Bits) := do
  let n := symbol - 16
  if n < form.direct then .ok (n + 1, bits)
  else
    let n := n - form.direct
    let low := n % Nat.pow 2 form.lowBits
    let high := n / Nat.pow 2 form.lowBits
    let width := high / 2 + 1
    let (more, bits) ← bits.take width
    let least := (2 + high % 2) * Nat.pow 2 width - 4
    .ok ((least + more) * Nat.pow 2 form.lowBits + low + form.direct + 1, bits)

end DistanceForm

/-- The last four distances, last one first. -/
structure LastDistances where
  first : Nat := 4
  second : Nat := 11
  third : Nat := 15
  fourth : Nat := 16
deriving Repr, DecidableEq

namespace LastDistances

/-- The last distances after one more. -/
def push (last : LastDistances) (distance : Nat) : LastDistances :=
  ⟨distance, last.first, last.second, last.third⟩

/-- How far the symbols from the fifth on are off one of the last two distances. -/
def offsets : Array Int := #[-1, 1, -2, 2, -3, 3]

/-- The distance of one of the first sixteen symbols. There is none where it would not be
above zero. -/
def find? (last : LastDistances) (symbol : Nat) : Option Nat :=
  match symbol with
  | 0 => some last.first
  | 1 => some last.second
  | 2 => some last.third
  | 3 => some last.fourth
  | symbol =>
    let base := if symbol < 10 then last.first else last.second
    let distance := (base : Int) + offsets.getD ((symbol - 4) % 6) 0
    if distance ≤ 0 then none else some distance.toNat

end LastDistances

end TableGateway.Coding.Brotli
