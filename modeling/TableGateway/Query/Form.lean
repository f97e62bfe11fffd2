import TableGateway.Text.Bytes
import TableGateway.Text.Hex
import TableGateway.Text.Pieces
import TableGateway.Text.Utf8

-- Form encoding, the encoding of query strings: pairs between ampersands,
-- plus signs for spaces, and percent signs for bytes.

namespace TableGateway.Query

/-! ## Percent signs -/

/-- A percent sign with two hexadecimal digits is a byte if `keep` lets it be
one. Everything else stands for itself. -/
def percentDecoded (keep : UInt8 → Bool) : List UInt8 → List UInt8
  | [] => []
  | a :: b :: c :: rest =>
    if a = Text.byte '%' then
      match (Text.hexPair? b c).filter keep with
      | some byte => byte :: percentDecoded keep rest
      | none => a :: percentDecoded keep (b :: c :: rest)
    else a :: percentDecoded keep (b :: c :: rest)
  | a :: rest => a :: percentDecoded keep rest

/-! ## Pairs -/

/-- One side of a pair: a plus sign is a space, and percent signs are decoded. -/
def formDecoded (s : String) : String :=
  let spaced := (Text.bytes s).map fun b => if b = Text.byte '+' then Text.byte ' ' else b
  Utf8.lossy (percentDecoded (fun _ => true) spaced)

/-- The pair of a piece. A piece with no equals sign is a name with an empty
value. -/
def formPair (piece : String) : String × String :=
  match Text.cutAt '=' piece with
  | some (key, value) => (formDecoded key, formDecoded value)
  | none => (formDecoded piece, "")

/-- The pairs of a query string, in order. Empty pieces are passed over. -/
def formPairs (query : String) : List (String × String) :=
  ((Text.pieces '&' query).filter (· ≠ "")).map formPair

end TableGateway.Query
