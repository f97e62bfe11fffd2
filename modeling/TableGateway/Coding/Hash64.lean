import TableGateway.Coding.Bits

-- A sum of sixty-four bits: four lanes take eight bytes each in turn, and what is
-- left over is taken into what the lanes make.

namespace TableGateway.Coding.Hash64

/-! ## Mixing -/

/-- The first factor. -/
def prime1 : UInt64 := 0x9E3779B185EBCA87
/-- The second factor. -/
def prime2 : UInt64 := 0xC2B2AE3D27D4EB4F
/-- The third factor. -/
def prime3 : UInt64 := 0x165667B19E3779F9
/-- The fourth factor. -/
def prime4 : UInt64 := 0x85EBCA77C2B2AE63
/-- The fifth factor. -/
def prime5 : UInt64 := 0x27D4EB2F165667C5

/-- The bits turned to the left. -/
def turned (n places : UInt64) : UInt64 :=
  (n <<< places) ||| (n >>> (64 - places))

/-- A lane after eight bytes. -/
def lane (n word : UInt64) : UInt64 :=
  turned (n + word * prime2) 31 * prime1

/-- The number of bytes at a place. -/
def wordAt (data : ByteArray) (start count : Nat) : UInt64 :=
  UInt64.ofNat (Bits.bytesAt data start count)

/-! ## Lanes -/

/-- The four lanes. -/
structure Lanes where
  a : UInt64
  b : UInt64
  c : UInt64
  d : UInt64

/-- The lanes before any bytes. -/
def Lanes.start : Lanes :=
  ⟨prime1 + prime2, prime2, 0, 0 - prime1⟩

/-- The lanes after thirty-two bytes from a place on. -/
def Lanes.take (lanes : Lanes) (data : ByteArray) (start : Nat) : Lanes where
  a := lane lanes.a (wordAt data start 8)
  b := lane lanes.b (wordAt data (start + 8) 8)
  c := lane lanes.c (wordAt data (start + 16) 8)
  d := lane lanes.d (wordAt data (start + 24) 8)

/-- The lanes after so many times thirty-two bytes. -/
def Lanes.takeAll (data : ByteArray) : Nat → Nat → Lanes → Lanes
  | _, 0, lanes => lanes
  | start, count + 1, lanes => takeAll data (start + 32) count (lanes.take data start)

/-- What the lanes make together. -/
def Lanes.together (lanes : Lanes) : UInt64 :=
  let sum := turned lanes.a 1 + turned lanes.b 7 + turned lanes.c 12 + turned lanes.d 18
  [lanes.a, lanes.b, lanes.c, lanes.d].foldl
    (fun n l => (n ^^^ lane 0 l) * prime1 + prime4) sum

/-! ## The rest -/

/-- Takes in eight bytes as often as told. -/
def takeWords (data : ByteArray) : Nat → Nat → UInt64 → UInt64
  | _, 0, n => n
  | start, count + 1, n =>
    takeWords data (start + 8) count
      (turned (n ^^^ lane 0 (wordAt data start 8)) 27 * prime1 + prime4)

/-- Takes in four bytes. -/
def takeHalf (data : ByteArray) (start : Nat) (n : UInt64) : UInt64 :=
  turned (n ^^^ (wordAt data start 4 * prime1)) 23 * prime2 + prime3

/-- Takes in single bytes. -/
def takeBytes (data : ByteArray) : Nat → Nat → UInt64 → UInt64
  | _, 0, n => n
  | start, count + 1, n =>
    takeBytes data (start + 1) count (turned (n ^^^ (wordAt data start 1 * prime5)) 11 * prime1)

/-- Spreads all bits over the number. -/
def spread (n : UInt64) : UInt64 :=
  let n := (n ^^^ (n >>> 33)) * prime2
  let n := (n ^^^ (n >>> 29)) * prime3
  n ^^^ (n >>> 32)

/-- The sum of bytes. -/
def sum (data : ByteArray) : UInt64 :=
  let stripes := data.size / 32
  let lanes := Lanes.takeAll data 0 stripes Lanes.start
  let n := (if stripes = 0 then prime5 else lanes.together) + UInt64.ofNat data.size
  let start := stripes * 32
  let words := (data.size - start) / 8
  let n := takeWords data start words n
  let start := start + words * 8
  let hasHalf := 4 ≤ data.size - start
  let n := if hasHalf then takeHalf data start n else n
  let start := if hasHalf then start + 4 else start
  spread (takeBytes data start (data.size - start) n)

end TableGateway.Coding.Hash64
