import TableGateway.Coding.Bits

-- What has been decoded so far, to which later parts refer.

namespace TableGateway.Coding.Output

/-- Puts bytes of the input behind the output. -/
def copyInput (data : ByteArray) : Nat → Nat → ByteArray → ByteArray
  | _, 0, out => out
  | start, count + 1, out => copyInput data (start + 1) count (out.push (Bits.byteAt data start))

/-- Puts a byte many times behind the output. -/
def copies (b : UInt8) : Nat → ByteArray → ByteArray
  | 0, out => out
  | count + 1, out => copies b count (out.push b)

/-- The byte so far before the end of the output. There are zeros before its start. -/
def back (out : ByteArray) (distance : Nat) : UInt8 :=
  if distance ≤ out.size then Bits.byteAt out (out.size - distance) else 0

/-- Repeats bytes that lie so far before the end of the output. -/
def repeatBytes (distance : Nat) : Nat → ByteArray → ByteArray
  | 0, out => out
  | count + 1, out => repeatBytes distance count (out.push (back out distance))

end TableGateway.Coding.Output
