import TableGateway.Json.NumberReader
import TableGateway.Json.Value
import TableGateway.Text.Hex
import TableGateway.Text.Utf8

-- Reading JSON texts. Brackets may nest to a depth of one hundred and
-- twenty-seven. Errors at a byte that is only looked at are placed just after
-- it, and errors at the end of the text at its end.

namespace TableGateway.Json

/-! ## Blanks and words -/

/-- The blank bytes between tokens: space, newline, tab and return. -/
def isSpaceByte (b : UInt8) : Bool :=
  b == 0x20 || b == 0x0A || b == 0x09 || b == 0x0D

/-- The text from its first byte that is not blank. -/
def skipSpace (text : List UInt8) : List UInt8 :=
  text.dropWhile isSpaceByte

/-- The bytes of a word, one after another. -/
def readWord {α : Type} (result : α) : List UInt8 → Reading α
  | [], rest => .ok (result, rest)
  | _ :: _, [] => .error ⟨.valueEnds, 0⟩
  | w :: word, b :: rest =>
    if b = w then readWord result word rest else .error ⟨.expectedIdent, rest.length⟩

/-! ## Strings -/

/-- Four hexadecimal digits. -/
def readFourDigits : Reading Nat
  | a :: b :: c :: d :: rest =>
    match Text.hexValue? a, Text.hexValue? b, Text.hexValue? c, Text.hexValue? d with
    | some a, some b, some c, some d => .ok (((a * 16 + b) * 16 + c) * 16 + d, rest)
    | _, _, _, _ => .error ⟨.invalidEscape, rest.length⟩
  | _ => .error ⟨.stringEnds, 0⟩

/-- The second half of a pair of surrogates, after the first. -/
def readSecondSurrogate (first : Nat) : Reading Nat
  | [] => .error ⟨.stringEnds, 0⟩
  | b :: rest =>
    if b = Text.byte '\\' then
      match rest with
      | [] => .error ⟨.stringEnds, 0⟩
      | u :: rest =>
        if u = Text.byte 'u' then do
          let (second, rest) ← readFourDigits rest
          if 0xDC00 ≤ second ∧ second ≤ 0xDFFF then
            .ok (0x10000 + (first - 0xD800) * 0x400 + (second - 0xDC00), rest)
          else .error ⟨.loneSurrogate, rest.length⟩
        else .error ⟨.unfinishedEscape, rest.length⟩
    else .error ⟨.unfinishedEscape, rest.length⟩

/-- A character written as a number, after its `u`. -/
def readCodePoint : Reading Nat := fun text => do
  let (n, rest) ← readFourDigits text
  if 0xDC00 ≤ n ∧ n ≤ 0xDFFF then .error ⟨.loneSurrogate, rest.length⟩
  else if 0xD800 ≤ n ∧ n ≤ 0xDBFF then readSecondSurrogate n rest
  else .ok (n, rest)

/-- The bytes that an escape stands for, after its backslash. -/
def readEscape : Reading (List UInt8)
  | [] => .error ⟨.stringEnds, 0⟩
  | b :: rest =>
    if b = Text.byte '"' ∨ b = Text.byte '\\' ∨ b = Text.byte '/' then .ok ([b], rest)
    else if b = Text.byte 'b' then .ok ([0x08], rest)
    else if b = Text.byte 'f' then .ok ([0x0C], rest)
    else if b = Text.byte 'n' then .ok ([0x0A], rest)
    else if b = Text.byte 'r' then .ok ([0x0D], rest)
    else if b = Text.byte 't' then .ok ([0x09], rest)
    else if b = Text.byte 'u' then do
      let (n, rest) ← readCodePoint rest
      .ok (String.utf8EncodeChar (Char.ofNat n), rest)
    else .error ⟨.invalidEscape, rest.length⟩

/-- The bytes of a string up to its closing quote. `read` holds the bytes so
far, last byte first. Every step reads a byte, so the length of the text is
fuel enough. -/
def readStringBytes : Nat → List UInt8 → Reading (List UInt8)
  | _, _, [] => .error ⟨.stringEnds, 0⟩
  | 0, _, _ => .error ⟨.stringEnds, 0⟩
  | fuel + 1, read, b :: rest =>
    if b = Text.byte '"' then .ok (read.reverse, rest)
    else if b = Text.byte '\\' then do
      let (bytes, rest) ← readEscape rest
      readStringBytes fuel (bytes.reverse ++ read) rest
    else if b < 0x20 then .error ⟨.controlCharacter, rest.length⟩
    else readStringBytes fuel (b :: read) rest

/-- A string after its opening quote. Its bytes have to be UTF-8. -/
def readString : Reading String := fun text => do
  let (bytes, rest) ← readStringBytes text.length [] text
  match Utf8.decode? bytes with
  | some s => .ok (s, rest)
  | none => .error ⟨.invalidUnicode, rest.length + (bytes.length - Utf8.validLength bytes)⟩

/-! ## Arrays -/

/-- The items of an array from the first one on. `read` holds the items so far,
last item first. -/
def readItems {α : Type} (item : Reading α) : Nat → List α → Reading (List α)
  | 0, _, _ => .error ⟨.listEnds, 0⟩
  | fuel + 1, read, text => do
    let (value, rest) ← item text
    match skipSpace rest with
    | [] => .error ⟨.listEnds, 0⟩
    | b :: rest =>
      if b = Text.byte ']' then .ok ((value :: read).reverse, rest)
      else if b = Text.byte ',' then
        match skipSpace rest with
        | [] => .error ⟨.valueEnds, 0⟩
        | c :: rest =>
          if c = Text.byte ']' then .error ⟨.trailingComma, rest.length⟩
          else readItems item fuel (value :: read) (c :: rest)
      else .error ⟨.expectedCommaOrBracket, rest.length⟩

/-- An array after its opening bracket. -/
def readArray {α : Type} (item : Reading α) : Reading (List α) := fun text =>
  match skipSpace text with
  | [] => .error ⟨.listEnds, 0⟩
  | b :: rest =>
    if b = Text.byte ']' then .ok ([], rest)
    else readItems item (rest.length + 1) [] (b :: rest)

/-! ## Objects -/

/-- The colon between a name and its value. -/
def readColon : Reading Unit := fun text =>
  match skipSpace text with
  | [] => .error ⟨.objectEnds, 0⟩
  | b :: rest =>
    if b = Text.byte ':' then .ok ((), rest) else .error ⟨.expectedColon, rest.length⟩

/-- One member, after the opening quote of its name. -/
def readMember {α : Type} (item : Reading α) : Reading (String × α) := fun text => do
  let (name, rest) ← readString text
  let ((), rest) ← readColon rest
  let (value, rest) ← item rest
  .ok ((name, value), rest)

/-- The members of an object from the opening quote of the first name on. -/
def readMembers {α : Type} (item : Reading α) : Nat → List (String × α) →
    Reading (List (String × α))
  | 0, _, _ => .error ⟨.objectEnds, 0⟩
  | fuel + 1, read, text => do
    let (member, rest) ← readMember item text
    match skipSpace rest with
    | [] => .error ⟨.objectEnds, 0⟩
    | b :: rest =>
      if b = Text.byte closeBrace then .ok ((member :: read).reverse, rest)
      else if b = Text.byte ',' then
        match skipSpace rest with
        | [] => .error ⟨.valueEnds, 0⟩
        | c :: rest =>
          if c = Text.byte '"' then readMembers item fuel (member :: read) rest
          else if c = Text.byte closeBrace then .error ⟨.trailingComma, rest.length⟩
          else .error ⟨.keyNotString, rest.length⟩
      else .error ⟨.expectedCommaOrBrace, rest.length⟩

/-- The members of an object after its opening brace, as they are written. -/
def readObject {α : Type} (item : Reading α) : Reading (List (String × α)) := fun text =>
  match skipSpace text with
  | [] => .error ⟨.objectEnds, 0⟩
  | b :: rest =>
    if b = Text.byte closeBrace then .ok ([], rest)
    else if b = Text.byte '"' then readMembers item (rest.length + 1) [] rest
    else .error ⟨.keyNotString, rest.length⟩

/-! ## Values -/

/-- A value that is neither an array nor an object, from its first byte on. -/
def readScalar : Reading Value
  | [] => .error ⟨.valueEnds, 0⟩
  | b :: rest =>
    if b = Text.byte 'n' then readWord .null (Text.bytes "ull") rest
    else if b = Text.byte 't' then readWord (.bool true) (Text.bytes "rue") rest
    else if b = Text.byte 'f' then readWord (.bool false) (Text.bytes "alse") rest
    else if b = Text.byte '"' then do
      let (s, rest) ← readString rest
      .ok (.string s, rest)
    else if b = Text.byte '-' then do
      let (n, rest) ← readNumber true rest
      .ok (.number n, rest)
    else if isDigitByte b then do
      let (n, rest) ← readNumber false (b :: rest)
      .ok (.number n, rest)
    else .error ⟨.expectedValue, rest.length⟩

/-- A value. Its items and members are read by `inner`, and where there is none
it may not be an array or an object. `arranged` puts the members in order. -/
def readWith (arranged : List (String × Value) → Members) (inner : Option (Reading Value)) :
    Reading Value := fun text =>
  match skipSpace text with
  | [] => .error ⟨.valueEnds, 0⟩
  | b :: rest =>
    if b = Text.byte '[' then
      match inner with
      | none => .error ⟨.nestedTooDeep, rest.length⟩
      | some item => do
        let (items, rest) ← readArray item rest
        .ok (.array items, rest)
    else if b = Text.byte openBrace then
      match inner with
      | none => .error ⟨.nestedTooDeep, rest.length⟩
      | some item => do
        let (members, rest) ← readObject item rest
        .ok (.object (arranged members), rest)
    else readScalar (b :: rest)

/-- A value whose brackets nest to a depth at most. -/
def readNested (arranged : List (String × Value) → Members) : Nat → Reading Value
  | 0 => readWith arranged none
  | depth + 1 => readWith arranged (some (readNested arranged depth))

/-- A value whose brackets nest to a depth at most. The members of its objects
stand in order, each name once. -/
def readValue (depth : Nat) : Reading Value :=
  readNested Members.ofList depth

/-- A value as it is written: the members of its objects stand as in the text,
and a name may come more than once. -/
def readWritten (depth : Nat) : Reading Value :=
  readNested id depth

/-- The greatest depth of brackets. -/
def maxDepth : Nat := 127

/-! ## Values of one kind -/

/-- The kind of a value, for a message. -/
def Found.ofValue : Value → Found
  | .null => .null
  | .bool b => .bool b
  | .number n => .number n
  | .string s => .string s
  | .array _ => .sequence
  | .object _ => .map

/-- A value that is not of the kind that is expected. A scalar is read first,
and an error in it is the error. -/
def refuse {α : Type} (expected : String) : Reading α
  | [] => .error ⟨.valueEnds, 0⟩
  | b :: rest =>
    if b = Text.byte '[' then .error ⟨.wrongType .sequence expected, rest.length + 1⟩
    else if b = Text.byte openBrace then .error ⟨.wrongType .map expected, rest.length + 1⟩
    else do
      let (value, rest) ← readScalar (b :: rest)
      .error ⟨.wrongType (.ofValue value) expected, rest.length⟩

/-- An object, for which all brackets inside nest to a depth at most. -/
def readRow (depth : Nat) : Reading Members := fun text =>
  match skipSpace text with
  | [] => .error ⟨.valueEnds, 0⟩
  | b :: rest =>
    if b = Text.byte openBrace then
      match depth with
      | 0 => .error ⟨.nestedTooDeep, rest.length⟩
      | inner + 1 => do
        let (members, rest) ← readObject (readValue inner) rest
        .ok (Members.ofList members, rest)
    else refuse "a map" (b :: rest)

/-- An array, for which all brackets inside nest to a depth at most. -/
def readList {α : Type} (item : Nat → Reading α) (depth : Nat) : Reading (List α) := fun text =>
  match skipSpace text with
  | [] => .error ⟨.valueEnds, 0⟩
  | b :: rest =>
    if b = Text.byte '[' then
      match depth with
      | 0 => .error ⟨.nestedTooDeep, rest.length⟩
      | inner + 1 => readArray (item inner) rest
    else refuse "a sequence" (b :: rest)

/-! ## Whole texts -/

/-- Reads all of a text. Only blanks may follow. -/
def readAll {α : Type} (reading : Reading α) (text : List UInt8) : Except ReadError α :=
  match reading text with
  | .error stop => .error (stop.located text)
  | .ok (value, rest) =>
    match skipSpace rest with
    | [] => .ok value
    | _ :: after => .error (Stop.located ⟨.trailingCharacters, after.length⟩ text)

/-- The value of a text. -/
def read (text : List UInt8) : Except ReadError Value :=
  readAll (readValue maxDepth) text

/-- The items of a text that is an array. -/
def readValues (text : List UInt8) : Except ReadError (List Value) :=
  readAll (readList readValue maxDepth) text

/-- The members of a text that is an object. -/
def readOneRow (text : List UInt8) : Except ReadError Members :=
  readAll (readRow maxDepth) text

/-- The objects of a text that is an array of objects. -/
def readRows (text : List UInt8) : Except ReadError (List Members) :=
  readAll (readList readRow maxDepth) text

end TableGateway.Json
