import TableGateway.Json.Reader

-- Values that are passed over. Only their form is looked at: a number may have
-- any size, a string may hold any escape, and brackets may nest to any depth.

namespace TableGateway.Json

/-! ## Numbers -/

/-- An exponent after its letter. -/
def passExponent : Reading Unit := fun text =>
  let digits := match text with
    | b :: rest => if b = Text.byte '+' ∨ b = Text.byte '-' then rest else text
    | [] => []
  match digits with
  | [] => .error ⟨.invalidNumber, 0⟩
  | b :: rest =>
    if isDigitByte b then .ok ((), afterDigits rest) else .error ⟨.invalidNumber, rest.length⟩

/-- An exponent, if there is one. -/
def passScale : Reading Unit
  | [] => .ok ((), [])
  | b :: rest => if isExponentMark b then passExponent rest else .ok ((), b :: rest)

/-- A fraction and an exponent, as far as they are there. -/
def passAfterWhole : Reading Unit
  | [] => .ok ((), [])
  | b :: rest =>
    if b = Text.byte '.' then
      match rest with
      | [] => .error ⟨.invalidNumber, 0⟩
      | d :: after =>
        if isDigitByte d then passScale (afterDigits after)
        else .error ⟨.invalidNumber, after.length⟩
    else passScale (b :: rest)

/-- A number after its minus, if it has one. A zero in front stands alone. -/
def passNumber : Reading Unit
  | [] => .error ⟨.invalidNumber, 0⟩
  | b :: rest =>
    if b = Text.byte '0' then
      match rest with
      | d :: after =>
        if isDigitByte d then .error ⟨.invalidNumber, after.length⟩ else passAfterWhole (d :: after)
      | [] => .ok ((), [])
    else if isDigitByte b then passAfterWhole (afterDigits rest)
    else .error ⟨.invalidNumber, rest.length⟩

/-! ## Strings -/

/-- The letters that may follow a backslash, other than that of a code point. -/
def escapeLetters : List UInt8 :=
  Text.bytes "\"\\/bfnrt"

/-- An escape after its backslash. -/
def passEscape : Reading Unit
  | [] => .error ⟨.stringEnds, 0⟩
  | b :: rest =>
    if b ∈ escapeLetters then .ok ((), rest)
    else if b = Text.byte 'u' then do
      let (_, rest) ← readFourDigits rest
      .ok ((), rest)
    else .error ⟨.invalidEscape, rest.length⟩

/-- A string up to its closing quote. Every step passes a byte, so the length of
the text is fuel enough. -/
def passStringBytes : Nat → Reading Unit
  | _, [] => .error ⟨.stringEnds, 0⟩
  | 0, _ => .error ⟨.stringEnds, 0⟩
  | fuel + 1, b :: rest =>
    if b = Text.byte '"' then .ok ((), rest)
    else if b = Text.byte '\\' then do
      let ((), rest) ← passEscape rest
      passStringBytes fuel rest
    else if b < 0x20 then .error ⟨.controlCharacter, rest.length + 1⟩
    else passStringBytes fuel rest

/-- A string after its opening quote. -/
def passString : Reading Unit := fun text =>
  passStringBytes text.length text

/-! ## Arrays and objects -/

/-- The items of an array from the first one on. -/
def passItems (item : Reading Unit) : Nat → Reading Unit
  | 0, _ => .error ⟨.listEnds, 0⟩
  | fuel + 1, text => do
    let ((), rest) ← item text
    match skipSpace rest with
    | [] => .error ⟨.listEnds, 0⟩
    | b :: rest =>
      if b = Text.byte ']' then .ok ((), rest)
      else if b = Text.byte ',' then passItems item fuel rest
      else .error ⟨.expectedCommaOrBracket, rest.length⟩

/-- An array after its opening bracket. -/
def passArray (item : Reading Unit) : Reading Unit := fun text =>
  match skipSpace text with
  | [] => .error ⟨.listEnds, 0⟩
  | b :: rest =>
    if b = Text.byte ']' then .ok ((), rest) else passItems item (rest.length + 1) (b :: rest)

/-- The members of an object from the first name on. -/
def passMembers (item : Reading Unit) : Nat → Reading Unit
  | 0, _ => .error ⟨.objectEnds, 0⟩
  | fuel + 1, text =>
    match skipSpace text with
    | [] => .error ⟨.objectEnds, 0⟩
    | b :: rest =>
      if b = Text.byte '"' then do
        let ((), rest) ← passString rest
        let ((), rest) ← readColon rest
        let ((), rest) ← item rest
        match skipSpace rest with
        | [] => .error ⟨.objectEnds, 0⟩
        | c :: rest =>
          if c = Text.byte closeBrace then .ok ((), rest)
          else if c = Text.byte ',' then passMembers item fuel rest
          else .error ⟨.expectedCommaOrBrace, rest.length⟩
      else .error ⟨.keyNotString, rest.length⟩

/-- An object after its opening brace. -/
def passObject (item : Reading Unit) : Reading Unit := fun text =>
  match skipSpace text with
  | [] => .error ⟨.objectEnds, 0⟩
  | b :: rest =>
    if b = Text.byte closeBrace then .ok ((), rest)
    else passMembers item (rest.length + 1) (b :: rest)

/-! ## Values -/

/-- A value that is neither an array nor an object, from its first byte on. -/
def passScalar : Reading Unit
  | [] => .error ⟨.valueEnds, 0⟩
  | b :: rest =>
    if b = Text.byte 'n' then readWord () (Text.bytes "ull") rest
    else if b = Text.byte 't' then readWord () (Text.bytes "rue") rest
    else if b = Text.byte 'f' then readWord () (Text.bytes "alse") rest
    else if b = Text.byte '"' then passString rest
    else if b = Text.byte '-' then passNumber rest
    else if isDigitByte b then passNumber (b :: rest)
    else .error ⟨.expectedValue, rest.length⟩

/-- A value whose brackets nest to a depth at most. -/
def passWithin : Nat → Reading Unit
  | 0, _ => .error ⟨.nestedTooDeep, 0⟩
  | depth + 1, text =>
    match skipSpace text with
    | [] => .error ⟨.valueEnds, 0⟩
    | b :: rest =>
      if b = Text.byte '[' then passArray (passWithin depth) rest
      else if b = Text.byte openBrace then passObject (passWithin depth) rest
      else passScalar (b :: rest)

/-- A value. Brackets cannot nest deeper than the text is long. -/
def passOver : Reading Unit := fun text =>
  passWithin (text.length + 1) text

end TableGateway.Json
