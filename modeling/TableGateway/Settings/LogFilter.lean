import TableGateway.Text.Blank
import TableGateway.Text.Letters
import TableGateway.Text.Numeral
import TableGateway.Text.Pieces

-- What is logged: directives between commas. A directive is a level, a target, or
-- both with an equals sign between them, and a span with fields may stand in
-- brackets. One that makes no sense is passed over with a warning.

namespace TableGateway.LogFilter

/-! ## Levels -/

/-- The names of levels. -/
def levelNames : List String :=
  ["error", "warn", "info", "debug", "trace", "off"]

/-- The greatest level that is written as a number. -/
def maxLevel : Nat := 5

/-- A text is a level: a name in any case, a number, or nothing. -/
def isLevel (cs : List Char) : Bool :=
  let digits := if cs.head? = some '+' then cs.drop 1 else cs
  cs.isEmpty || levelNames.contains (Text.lower (String.ofList cs)) ||
    (Text.natural? digits).any (· ≤ maxLevel)

/-! ## Directives -/

/-- What stands at a point of a directive. A level is known as soon as the equals sign
before it is read. -/
inductive Stage where
  | start
  | word
  | span
  | fieldStart
  | field
  | fields
  | target
  | level (text : List Char)
deriving Repr, DecidableEq

/-- The characters that a directive may start with. -/
def isOpening (c : Char) : Bool :=
  Text.isLetter c || c == '-' || c == ':' || c == '_'

/-- The stage after a character, where `text` would be a level. -/
def Stage.next (text : List Char) (c : Char) : Stage → Option Stage
  | start => if c = '[' then some span else if isOpening c then some word else none
  | word =>
    if c = '=' then some (level text) else if c = '[' then some span else some word
  | span =>
    if c = ']' then some target else if c = '\x7b' then some fieldStart else some span
  | fieldStart => if c = '\x7d' then none else some field
  | field => if c = '\x7d' then some fields else some field
  | fields => if c = ']' then some target else none
  | target => if c = '=' then some (level text) else none
  | level text => some (level text)

/-- A directive may end here. -/
def Stage.isFinal : Stage → Bool
  | word | target => true
  | level text => isLevel text
  | _ => false

/-- The stage after all characters. A level is what the directive holds after as many
characters as were read, so blanks in front of the directive shift it. -/
def stageAfter (directive : List Char) : Nat → Stage → List Char → Option Stage
  | _, stage, [] => some stage
  | count, stage, c :: rest =>
    match stage.next (directive.drop (count + 1)) c with
    | some next => stageAfter directive (count + 1) next rest
    | none => none

/-- A directive makes sense. -/
def isDirective (directive : String) : Bool :=
  let cs := directive.toList
  (stageAfter cs 0 .start (Text.trimChars cs)).any Stage.isFinal

/-! ## Warnings -/

/-- The warning about a directive that makes no sense. -/
def warning (directive : String) : String :=
  "ignoring `" ++ directive ++ "`: invalid filter directive"

/-- The warnings about a filter, in order. Empty directives do not count. -/
def warnings (filter : String) : List String :=
  (((Text.pieces ',' filter).filter (· ≠ "")).filter fun d => !isDirective d).map warning

end TableGateway.LogFilter
