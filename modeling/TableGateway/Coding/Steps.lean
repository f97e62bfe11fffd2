import TableGateway.Coding.Bits

-- Numbers in steps: a symbol tells the least number of a step, and some bits are
-- added to it. Every step begins where the one before ends.

namespace TableGateway.Coding.Steps

/-- The least number of each step with its number of bits, from a first number on. -/
def ofWidths (start : Nat) : List Nat → List (Nat × Nat)
  | [] => []
  | width :: widths => (start, width) :: ofWidths (start + Nat.pow 2 width) widths

/-- The number that the step of a symbol and the bits that add to it make. -/
def read (steps : Array (Nat × Nat)) (symbol : Nat) (bits : Bits) : Except Stop (Nat × Bits) :=
  match steps[symbol]? with
  | none => .error .broken
  | some (least, width) => do
    let (more, bits) ← bits.take width
    .ok (least + more, bits)

end TableGateway.Coding.Steps
