import TableGateway.Json.PassedOver

-- Objects with named fields of known types. Each field is read into a record.
-- An array may stand for an object: its items are the fields in order.

namespace TableGateway.Json

/-! ## Fields -/

/-- A field of a record. `read` reads its value. A field that `isRequired` has
to be there in an object, and one that `mayEnd` may be left out of an array. -/
structure Field (σ : Type) where
  name : String
  read : Reading (σ → σ)
  isRequired : Bool := false
  mayEnd : Bool := false

/-- A kind of record: how messages call it, and its fields. -/
structure Schema (σ : Type) where
  name : String
  fields : List (Field σ)

namespace Schema

variable {σ : Type}

/-- The field of a name. -/
def field? (schema : Schema σ) (name : String) : Option (Field σ) :=
  schema.fields.find? fun f => f.name == name

/-! ## Objects -/

/-- The bytes left when a record ends early at a closing mark. -/
def leftAfterClosing (closing : UInt8) (text : List UInt8) : Nat :=
  match skipSpace text with
  | [] => 0
  | b :: rest => if b = closing then rest.length else rest.length + 1

/-- The value of a member, after its name. An unknown member is passed over. -/
def readMemberValue (schema : Schema σ) (name : String) : Reading (σ → σ) := fun text =>
  match schema.field? name with
  | some f => f.read text
  | none => do
    let ((), rest) ← passOver text
    .ok (id, rest)

/-- The members from the opening quote of the first name on. -/
def readMembers (schema : Schema σ) : Nat → List String → σ → Reading (List String × σ)
  | 0, _, _, _ => .error ⟨.objectEnds, 0⟩
  | fuel + 1, seen, record, text => do
    let (name, rest) ← readString text
    if name ∈ seen ∧ (schema.field? name).isSome then
      .error ⟨.duplicateField name, leftAfterClosing (Text.byte closeBrace) rest⟩
    else
      let ((), rest) ← readColon rest
      let (change, rest) ← schema.readMemberValue name rest
      match skipSpace rest with
      | [] => .error ⟨.objectEnds, 0⟩
      | b :: rest =>
        if b = Text.byte closeBrace then .ok ((name :: seen, change record), rest)
        else if b = Text.byte ',' then
          match skipSpace rest with
          | [] => .error ⟨.valueEnds, 0⟩
          | c :: rest =>
            if c = Text.byte '"' then
              schema.readMembers fuel (name :: seen) (change record) rest
            else if c = Text.byte closeBrace then .error ⟨.trailingComma, rest.length⟩
            else .error ⟨.keyNotString, rest.length⟩
        else .error ⟨.expectedCommaOrBrace, rest.length⟩

/-- Refuses a record that lacks a field it needs. -/
def complete (schema : Schema σ) (seen : List String) (record : σ) : Reading σ := fun rest =>
  match schema.fields.find? fun f => f.isRequired && !seen.contains f.name with
  | some f => .error ⟨.missingField f.name, rest.length⟩
  | none => .ok (record, rest)

/-- A record after its opening brace. -/
def readObject (schema : Schema σ) (start : σ) : Reading σ := fun text =>
  match skipSpace text with
  | [] => .error ⟨.objectEnds, 0⟩
  | b :: rest =>
    if b = Text.byte closeBrace then schema.complete [] start rest
    else if b = Text.byte '"' then do
      let ((seen, record), rest) ← schema.readMembers (rest.length + 1) [] start rest
      schema.complete seen record rest
    else .error ⟨.keyNotString, rest.length⟩

/-! ## Arrays -/

/-- The words for the length that an array has to have. -/
def lengthWords (schema : Schema σ) : String :=
  schema.name ++ " with " ++ (Number.whole schema.fields.length).text ++ " elements"

/-- The closing bracket after the last field. -/
def readClosing (record : σ) : Reading σ := fun text =>
  match skipSpace text with
  | [] => .error ⟨.listEnds, 0⟩
  | b :: rest =>
    if b = Text.byte ']' then .ok (record, rest)
    else if b = Text.byte ',' then
      match skipSpace rest with
      | [] => .error ⟨.trailingCharacters, 0⟩
      | c :: rest =>
        .error ⟨if c = Text.byte ']' then .trailingComma else .trailingCharacters, rest.length⟩
    else .error ⟨.trailingCharacters, rest.length⟩

/-- The fields that are not read yet, of which `index` come before. -/
def readFields (schema : Schema σ) : Nat → List (Field σ) → σ → Reading σ
  | _, [], record, text => readClosing record text
  | index, f :: fields, record, text =>
    match skipSpace text with
    | [] => .error ⟨.listEnds, 0⟩
    | b :: rest =>
      if b = Text.byte ']' then
        if f.mayEnd then schema.readFields (index + 1) fields record (b :: rest)
        else .error ⟨.wrongLength index schema.lengthWords, rest.length⟩
      else if index = 0 then do
        let (change, rest) ← f.read (b :: rest)
        schema.readFields (index + 1) fields (change record) rest
      else if b = Text.byte ',' then
        match skipSpace rest with
        | [] => .error ⟨.valueEnds, 0⟩
        | c :: rest =>
          if c = Text.byte ']' then .error ⟨.trailingComma, rest.length⟩
          else do
            let (change, rest) ← f.read (c :: rest)
            schema.readFields (index + 1) fields (change record) rest
      else .error ⟨.expectedCommaOrBracket, rest.length⟩

/-! ## Records -/

/-- A record. Where a field is not given, it stays as it is at the start. -/
def read (schema : Schema σ) (start : σ) : Reading σ := fun text =>
  match skipSpace text with
  | [] => .error ⟨.valueEnds, 0⟩
  | b :: rest =>
    if b = Text.byte openBrace then schema.readObject start rest
    else if b = Text.byte '[' then schema.readFields 0 schema.fields start rest
    else refuse schema.name (b :: rest)

end Schema

/-! ## Values of fields -/

/-- A value of any kind, which is passed over. -/
def readAnything : Reading Unit := fun text => do
  let (_, rest) ← readValue (maxDepth - 1) text
  .ok ((), rest)

/-- Null, or a value. -/
def readOptional {α : Type} (reading : Reading α) : Reading (Option α) := fun text =>
  match skipSpace text with
  | [] => .error ⟨.valueEnds, 0⟩
  | b :: rest =>
    if b = Text.byte 'n' then readWord none (Text.bytes "ull") rest
    else do
      let (value, rest) ← reading (b :: rest)
      .ok (some value, rest)

/-- A string. -/
def readText : Reading String := fun text =>
  match skipSpace text with
  | [] => .error ⟨.valueEnds, 0⟩
  | b :: rest => if b = Text.byte '"' then readString rest else refuse "a string" (b :: rest)

end TableGateway.Json
