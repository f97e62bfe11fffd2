import TableGateway.CommandLine.Flags
import TableGateway.Text.Pieces

-- Reading the command line. A flag whose value has not come yet, or may still
-- be followed by something wrong, is only taken when the next flag starts.

namespace TableGateway.CommandLine

/-! ## Arguments -/

/-- An argument by its form. -/
inductive Argument where
  | long (name : String) (value : Option String)
  | short (letter : Char) (rest : List Char)
  | word (text : String)
deriving Repr, DecidableEq

/-- The form of an argument. Two hyphens start a long name, which may have a value
after an equals sign, and one hyphen a letter. A hyphen alone is a word. -/
def Argument.ofText (text : String) : Argument :=
  match text.toList with
  | '-' :: '-' :: rest =>
    match Text.cutAt '=' (String.ofList rest) with
    | some (name, value) => .long name (some value)
    | none => .long (String.ofList rest) none
  | '-' :: letter :: rest => .short letter rest
  | _ => .word text

/-- The mark after which no argument is a flag. -/
def separator : String := "--"

/-! ## Reading flags -/

/-- What is read so far: the flags that are taken, and one that is not yet, with
its value if that has come. -/
structure Progress where
  flags : Flags := {}
  pending : Option (ValueFlag × Option String) := none
deriving Repr

namespace Progress

/-- Takes the flag that is not taken yet. -/
def settled (progress : Progress) : Except Refusal Flags :=
  match progress.pending with
  | none => .ok progress.flags
  | some (_, none) => .error .missingValue
  | some (flag, some value) => progress.flags.put flag value

/-- Takes a flag whose value is attached. -/
def attached (progress : Progress) (flag : ValueFlag) (value : String) :
    Except Refusal Progress := do
  return { flags := ← (← progress.settled).put flag value }

/-- Starts a flag whose value comes next. -/
def started (progress : Progress) (flag : ValueFlag) : Except Refusal Progress := do
  return { flags := ← progress.settled, pending := some (flag, none) }

/-- Takes a flag with its value, or starts it. -/
def valueFlag (progress : Progress) (flag : ValueFlag) (value : Option String) :
    Except Refusal Progress :=
  match value with
  | some value => progress.attached flag value
  | none => progress.started flag

/-- Takes a flag that stands alone. -/
def switch (progress : Progress) (switch : Switch) (value : Option String) :
    Except Refusal Progress :=
  match value with
  | some _ => .error .surplusValue
  | none => do return { flags := ← (← progress.settled).turnOn switch }

/-- Gives help, unless the flag before is wrong. -/
def help (progress : Progress) : Except Refusal Progress := do
  let _ ← progress.settled
  .error .help

/-- Takes a long name. -/
def long (progress : Progress) (name : String) (value : Option String) :
    Except Refusal Progress :=
  match ValueFlag.longNames.lookup name, Switch.longNames.lookup name with
  | some flag, _ => progress.valueFlag flag value
  | none, some flag => progress.switch flag value
  | none, none =>
    if name = "help" then if value.isSome then .error .surplusValue else progress.help
    else .error .unknownArgument

/-- The value after a letter, with or without an equals sign. -/
def letterValue : List Char → Option String
  | [] => none
  | '=' :: rest => some (String.ofList rest)
  | cs => some (String.ofList cs)

/-- Takes a letter and what stands after it. -/
def short (progress : Progress) (letter : Char) (rest : List Char) : Except Refusal Progress :=
  match ValueFlag.letters.lookup letter with
  | some flag => progress.valueFlag flag (letterValue rest)
  | none => if letter = 'h' then progress.help else .error .unknownArgument

/-- Takes a word, which has to be the value of the flag before. -/
def word (progress : Progress) (text : String) : Except Refusal Progress :=
  match progress.pending with
  | some (flag, none) => .ok { progress with pending := some (flag, some text) }
  | _ => .error .unknownArgument

/-- Takes an argument. -/
def take (progress : Progress) (text : String) : Except Refusal Progress :=
  match Argument.ofText text with
  | .long name value => progress.long name value
  | .short letter rest => progress.short letter rest
  | .word text => progress.word text

end Progress

/-- The flags of arguments. There may be nothing after the separator. -/
def readFlags (arguments : List String) : Except Refusal Flags := do
  let progress ← (arguments.takeWhile (· ≠ separator)).foldlM Progress.take {}
  match (arguments.dropWhile (· ≠ separator)).drop 1 with
  | _ :: _ => .error .unknownArgument
  | [] => (← progress.settled).checked

/-! ## Reading commands -/

/-- The command that starts the gateway. -/
def serveCommand : String := "serve"

/-- The command that gives help. -/
def helpCommand : String := "help"

/-- The names of all commands. -/
def commands : List String :=
  [serveCommand, helpCommand]

/-- Help on a command, or on all of them. -/
def helpOn : List String → Refusal
  | [] => .help
  | [name] => if name ∈ commands then .help else .unknownCommand
  | _ => .unknownCommand

/-- What a flag in front of all commands asks for. -/
def leadingLong (name : String) (value : Option String) : Refusal :=
  if name = "help" then if value.isSome then .surplusValue else .help
  else if name = "version" then if value.isSome then .surplusValue else .version
  else .unknownArgument

/-- What a letter in front of all commands asks for. -/
def leadingShort (letter : Char) : Refusal :=
  if letter = 'h' then .help else if letter = 'V' then .version else .unknownArgument

/-- What a separator in front of all commands leads to. -/
def leadingSeparator : List String → Refusal
  | [] => .nothingAsked
  | name :: _ => if name ∈ commands then .unknownArgument else .unknownCommand

/-- The flags of a command line without the name of the program. `dsn` is the
source name from the environment. -/
def read (arguments : List String) (dsn : Option String) : Except Refusal Flags :=
  match arguments with
  | [] => .error .nothingAsked
  | first :: rest =>
    if first = separator then .error (leadingSeparator rest)
    else
      match Argument.ofText first with
      | .long name value => .error (leadingLong name value)
      | .short letter _ => .error (leadingShort letter)
      | .word name =>
        if name = serveCommand then (readFlags rest).map fun flags => flags.withDsn dsn
        else if name = helpCommand then .error (helpOn rest)
        else .error .unknownCommand

end TableGateway.CommandLine
