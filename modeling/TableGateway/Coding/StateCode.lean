import TableGateway.Coding.BackBits

-- Codes whose words lead from state to state. A state stands for a symbol, and the
-- bits after it tell the next state. Symbols have shares of all states: the greater
-- the share, the fewer bits.

namespace TableGateway.Coding

/-- A state: its symbol, and how many bits are added to which number for the next
state. -/
structure CodeState where
  symbol : Nat
  width : Nat
  base : Nat
deriving Repr, Inhabited

/-- A code: its states, and the number of bits that tell the first one. -/
structure StateCode where
  log : Nat
  states : Array CodeState
deriving Repr

namespace StateCode

/-! ## Shares -/

/-- The number of the next bits, which are zeros after the end. -/
def peek (bits : Bits) (count : Nat) : Nat :=
  Bits.numberAt bits.data bits.next count

/-- The bits after so many. -/
def drop (bits : Bits) (count : Nat) : Bits :=
  { bits with next := bits.next + count }

/-- How many more symbols have no share. Two bits tell up to three of them, and three
means that two more bits follow. -/
def readGap : Nat → Bits → Nat × Bits
  | 0, bits => (0, bits)
  | fuel + 1, bits =>
    let more := peek bits 2
    if more = 3 then
      let (rest, bits) := readGap fuel (drop bits 2)
      (3 + rest, bits)
    else (more, drop bits 2)

/-- A number below `remaining + 1`, in as few bits as that allows. -/
def readBelow (remaining : Nat) (bits : Bits) : Nat × Bits :=
  let width := Nat.log2 remaining
  let short := Nat.pow 2 (width + 1) - 1 - remaining
  let low := peek bits width
  if low < short then (low, drop bits width)
  else
    let full := peek bits (width + 1)
    (if full < Nat.pow 2 width then full else full - short, drop bits (width + 1))

/-- Shares until nothing remains. `read` holds those so far, last one first. A share of
minus one is less than one state, but takes one. -/
def readSharesFrom (maxSymbol : Nat) : Nat → Nat → List Int → Bits → Option (List Int × Bits)
  | 0, _, _, _ => none
  | fuel + 1, remaining, read, bits =>
    let (gap, bits) := if read.head? = some 0 then readGap (bits.left + 1) bits else (0, bits)
    if maxSymbol < read.length + gap then none
    else
      let (n, bits) := readBelow remaining bits
      let read := ((n : Int) - 1) :: (List.replicate gap 0 ++ read)
      let remaining := remaining - max (n - 1) (1 - n)
      if remaining ≤ 1 then some (read.reverse, bits)
      else readSharesFrom maxSymbol fuel remaining read bits

/-- The least number of bits that tell a first state. -/
def minLog : Nat := 5

/-- The shares that bytes between two places write, with the number of bits for the
first state and the place after them. -/
def readShares (data : ByteArray) (start stop maxSymbol maxLog : Nat) :
    Option (Nat × List Int × Nat) := do
  let bits := Bits.ofByte (data.extract 0 stop) start
  let log := peek bits 4 + minLog
  if log > maxLog then none
  else do
    let (shares, bits) ←
      readSharesFrom maxSymbol (maxSymbol + 1) (Nat.pow 2 log + 1) [] (drop bits 4)
    if bits.nextByte ≤ stop then some (log, shares, bits.nextByte) else none

/-! ## States -/

/-- The symbols of all states. Small shares are at the end, and all others are spread
over what is before them. -/
def symbols (log : Nat) (shares : List Int) : Array Nat :=
  let size := Nat.pow 2 log
  let rare := (shares.zipIdx.filter fun entry => entry.1 == -1).map Prod.snd
  let common := shares.zipIdx.flatMap fun entry => List.replicate entry.1.toNat entry.2
  let stride := size / 2 + size / 8 + 3
  let places := ((List.range size).map fun i => i * stride % size).filter (· < size - rare.length)
  let ends := (List.range rare.length).map fun i => size - 1 - i
  (places.zip common ++ ends.zip rare).foldl (fun table entry => table.set! entry.1 entry.2)
    (Array.replicate size 0)

/-- The states of symbols. The states of one symbol share out all states among them, in
order. -/
def statesOf (log : Nat) (shares : List Int) : Array CodeState :=
  let counts := (shares.map fun share => if share = -1 then 1 else share.toNat).toArray
  let next (made : Array CodeState × Array Nat) (symbol : Nat) : Array CodeState × Array Nat :=
    let count := made.2.getD symbol 1
    let width := log - Nat.log2 count
    (made.1.push ⟨symbol, width, count * Nat.pow 2 width - Nat.pow 2 log⟩,
      made.2.set! symbol (count + 1))
  ((symbols log shares).foldl next (#[], counts)).1

/-- The code of shares. -/
def ofShares (log : Nat) (shares : List Int) : StateCode :=
  { log, states := statesOf log shares }

/-- The code with one state. -/
def constant (symbol : Nat) : StateCode :=
  { log := 0, states := #[⟨symbol, 0, 0⟩] }

/-! ## Reading -/

/-- The first state. -/
def start (code : StateCode) (bits : BackBits) : CodeState × BackBits :=
  let (n, bits) := bits.take code.log
  (code.states.getD n default, bits)

/-- The state after a state. -/
def step (code : StateCode) (state : CodeState) (bits : BackBits) : CodeState × BackBits :=
  let (n, bits) := bits.take state.width
  (code.states.getD (state.base + n) default, bits)

end StateCode

end TableGateway.Coding
