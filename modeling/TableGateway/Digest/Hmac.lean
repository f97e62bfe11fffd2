import TableGateway.Digest.Sha2

-- Keyed hashes. A key longer than a block is hashed first.

namespace TableGateway.Digest

/-- The key as one block. -/
def blockKey (v : Sha2) (key : List UInt8) : List UInt8 :=
  let short := if key.length > v.blockBytes then v.hash key else key
  short ++ List.replicate (v.blockBytes - short.length) 0

/-- The keyed hash of a message. -/
def hmac (v : Sha2) (key message : List UInt8) : List UInt8 :=
  let block := blockKey v key
  let inner := v.hash ((block.map (· ^^^ 0x36)) ++ message)
  v.hash ((block.map (· ^^^ 0x5C)) ++ inner)

end TableGateway.Digest
