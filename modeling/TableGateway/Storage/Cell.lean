import TableGateway.Json.NumberReader
import TableGateway.Json.Value
import TableGateway.Json.Writer
import TableGateway.Text.Utf8

-- Cells of a database table. Values become cells when they are bound to a
-- statement, and cells become values again when a row is read.

namespace TableGateway

/-- What a cell holds. -/
inductive Cell where
  | null
  | integer (n : Int)
  | real (bits : UInt64)
  | text (s : String)
  | blob (bytes : List UInt8)
deriving Repr, DecidableEq

namespace Cell

/-- The floating point number nearest to a number. -/
def nearestFloat : Json.Number → UInt64
  | .whole n =>
    if n < 0 then (-(UInt64.ofNat n.natAbs).toFloat).toBits
    else (UInt64.ofNat n.toNat).toFloat.toBits
  | .float bits => bits

/-- The integer of a number, if it is one of sixty-four bits with a sign. -/
def integer? : Json.Number → Option Int
  | .whole n => if -9223372036854775808 ≤ n ∧ n ≤ 9223372036854775807 then some n else none
  | .float _ => none

/-- The cell that a value is bound as. A truth value is one or zero, and an
array or an object is its text. -/
def ofValue : Json.Value → Cell
  | .null => .null
  | .bool b => .integer (if b then 1 else 0)
  | .number n =>
    match integer? n with
    | some i => .integer i
    | none => .real (nearestFloat n)
  | .string s => .text s
  | .array items => .text (Json.Value.array items).text
  | .object members => .text (Json.Value.object members).text

/-- The value that a cell is read as. Bytes are read as text, and a number that
is not finite as null. -/
def value : Cell → Json.Value
  | .null => .null
  | .integer n => .number (.whole n)
  | .real bits =>
    match Decimal.binary? bits with
    | some _ => .number (.float bits)
    | none => .null
  | .text s => .string s
  | .blob bytes => .string (Utf8.lossy bytes)

end Cell

/-- The object of a row: a member for each column. -/
def rowObject (columns : List String) (cells : List Cell) : Json.Members :=
  Json.Members.ofList (columns.zip (cells.map Cell.value))

end TableGateway
