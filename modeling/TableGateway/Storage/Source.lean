import TableGateway.Storage.Address
import TableGateway.Storage.Backend
import TableGateway.Storage.Disk
import TableGateway.Text.Numeral
import TableGateway.Text.Quoted

-- Source names of databases: a scheme, a path, and parameters after a question
-- mark. A source is opened on the disk, and may be made there.

namespace TableGateway

/-- A database to open: a file, or one that is kept in memory alone. The file system
to use may be named. -/
structure Source where
  path : String
  inMemory : Bool := false
  readOnly : Bool := false
  immutable : Bool := false
  fileSystem : Option String := none
deriving Repr, DecidableEq

/-- Why a source name is refused. -/
inductive SourceFault where
  | unknownValue (value name : String)
  | unknownParameter (name : String)
  | brokenPath (broken : Utf8.Break)
deriving Repr, DecidableEq

/-- The words for a broken part of a path. -/
def brokenPathText (broken : Utf8.Break) : String :=
  let number (n : Nat) : String := String.ofList (Nat.toDigits 10 n)
  let place := " from index " ++ number broken.index
  match broken.length with
  | some length => "invalid utf-8 sequence of " ++ number length ++ " bytes" ++ place
  | none => "incomplete utf-8 byte sequence" ++ place

/-- The words for a refusal. -/
def SourceFault.message : SourceFault → String
  | unknownValue value name => "unknown value " ++ Text.quoted value ++ " for `" ++ name ++ "`"
  | unknownParameter name =>
    "unknown query parameter `" ++ name ++ "` while parsing connection URL"
  | brokenPath broken => brokenPathText broken

namespace Source

/-! ## Reading a source name -/

/-- The text without all copies of a head that it starts with. Every step drops a
character at least, so the length of the text is fuel enough. -/
def withoutHeads (head : List Char) : Nat → List Char → List Char
  | 0, cs => cs
  | fuel + 1, cs =>
    if head.isPrefixOf cs then withoutHeads head fuel (cs.drop head.length) else cs

/-- The source name without its scheme. -/
def withoutScheme (dsn : String) : String :=
  let cs := dsn.toList
  let rest := withoutHeads "sqlite://".toList cs.length cs
  String.ofList (withoutHeads "sqlite:".toList rest.length rest)

/-- The path that stands for a database in memory. -/
def memoryPath : String := ":memory:"

/-- The database of a path, in which bytes may be written after percent signs. -/
def ofPath (path : String) : Except SourceFault Source :=
  if path = memoryPath then .ok { path, inMemory := true }
  else
    let bytes := Query.percentDecoded (fun _ => true) (Text.bytes path)
    match Utf8.firstBreak? bytes with
    | none => .ok { path := Utf8.lossy bytes }
    | some broken => .error (.brokenPath broken)

/-- The database after the parameter for the way that it is opened. -/
def withMode (source : Source) (mode : String) : Except SourceFault Source :=
  if mode = "ro" then .ok { source with readOnly := true }
  else if mode = "rw" ∨ mode = "rwc" then .ok source
  else if mode = "memory" then .ok { source with inMemory := true }
  else .error (.unknownValue mode "mode")

/-- Takes the parameter for files that never change. -/
def withImmutable (source : Source) (value : String) : Except SourceFault Source :=
  if value = "true" ∨ value = "1" then .ok { source with immutable := true }
  else if value = "false" ∨ value = "0" then .ok { source with immutable := false }
  else .error (.unknownValue value "immutable")

/-- Takes a parameter. Whether a cache is shared changes nothing here. -/
def take (source : Source) (pair : String × String) : Except SourceFault Source :=
  let (name, value) := pair
  if name = "mode" then source.withMode value
  else if name = "cache" then
    if value = "private" ∨ value = "shared" then .ok source else .error (.unknownValue value name)
  else if name = "immutable" then source.withImmutable value
  else if name = "vfs" then .ok { source with fileSystem := some value }
  else .error (.unknownParameter name)

/-- The database of a source name. -/
def ofDsn (dsn : String) : Except SourceFault Source :=
  let name := withoutScheme dsn
  match Text.cutAt '?' name with
  | none => ofPath name
  | some (path, params) => do (Query.formPairs params).foldlM take (← ofPath path)

/-! ## Opening -/

/-- The words of the database for an error with a code. -/
def errorText (code : Nat) (text : String) : String :=
  "error returned from database: (code: " ++ String.ofList (Nat.toDigits 10 code) ++ ") " ++ text

/-- The words of the database for a file that cannot be opened. -/
def closedText : String := errorText 14 "unable to open database file"

/-- The words for a path that cannot be given to the database. -/
def zeroText : String :=
  "error communicating with database: filename passed to SQLite must not contain nul bytes"

/-- The words for a pool that never has a connection to give. -/
def emptyPoolText : String :=
  "pool timed out while waiting for an open connection"

/-- What the database is asked to open: a path, a sum of rights, and the file system
to use. -/
structure Target where
  path : String
  rights : Nat
  fileSystem : Option String := none
deriving Repr, DecidableEq

namespace Target

/-- The right to read. -/
def read : Nat := 1

/-- The right to write as well. -/
def write : Nat := 2

/-- The right to make a new file and write it. -/
def create : Nat := 6

/-- The right to keep the database in memory, beside all others. -/
def memory : Nat := 128

/-- The rights that an option asks for. -/
def rightsNamed? (value : String) : Option Nat :=
  [("ro", read), ("rw", write), ("rwc", create), ("memory", memory)].lookup value

/-- Takes the option for rights, which cannot ask for more than there are. -/
def withAccess (target : Target) (value : String) : Except String Target :=
  match rightsNamed? value with
  | none => .error (errorText 1 ("no such access mode: " ++ value))
  | some rights =>
    if target.rights < rights % memory then
      .error (errorText 3 ("access mode not allowed: " ++ value))
    else .ok { target with rights }

/-- Takes an option. Those that are not known do not count. -/
def take (target : Target) (option : String × String) : Except String Target :=
  let (name, value) := option
  if name = "vfs" then .ok { target with fileSystem := some value }
  else if name = "cache" then
    if value = "private" ∨ value = "shared" then .ok target
    else .error (errorText 1 ("no such cache mode: " ++ value))
  else if name = "mode" then target.withAccess value
  else .ok target

/-- The file system that keeps everything in memory. -/
def memorySystem : String := "memdb"

/-- The file systems that there are. -/
def fileSystems : List String :=
  ["unix", "unix-none", "unix-dotfile", "unix-excl", memorySystem]

/-- The target is kept in memory, or in a file without a name. -/
def isTransient (target : Target) : Bool :=
  memory ≤ target.rights || target.path == memoryPath || target.path == "" ||
    target.fileSystem == some memorySystem

/-- Opens the target. A file that is not there may be made. -/
def openOn (target : Target) (disk : Disk) : Except String (Database × Disk) :=
  let place := disk.place target.path
  if target.fileSystem.any (· ∉ fileSystems) then
    .error (errorText 1 ("no such vfs: " ++ target.fileSystem.getD ""))
  else if target.isTransient then .ok (.empty, disk)
  else
    match disk.entry? place with
    | some (.file file) => .ok (if file.content.isEmpty then .empty else .broken, disk)
    | some _ => .error closedText
    | none =>
      if target.rights = create ∧ disk.isFree place then
        .ok (.empty, disk.put place (.file { content := [], changed := 0 }))
      else .error closedText

end Target

/-- The text as far as the first zero. -/
def beforeZero (s : String) : String :=
  String.ofList (s.toList.takeWhile (· ≠ Char.ofNat 0))

/-- What the database is asked to open for a source. A path that goes along with
options ends at a zero, and another one cannot have any. -/
def target (source : Source) : Except String Target :=
  let rights := (if source.readOnly then Target.read else Target.create) +
    if source.inMemory then Target.memory else 0
  if source.immutable ∨ source.fileSystem.isSome then
    let spaced (s : String) : String := s.map fun c => if c = ' ' then '+' else c
    .ok {
      path := beforeZero source.path, rights
      fileSystem := source.fileSystem.map fun name => beforeZero (spaced name) }
  else if source.path.toList.contains (Char.ofNat 0) then .error zeroText
  else
    match Address.ofName? source.path with
    | none => .ok { path := source.path, rights }
    | some (.error text) => .error (errorText 1 text)
    | some (.ok address) => address.options.foldlM Target.take { path := address.path, rights }

/-- Opens a source on a disk. The database comes with the disk afterwards. -/
def openOn (source : Source) (disk : Disk) : Except String (Database × Disk) :=
  source.target.bind fun target => target.openOn disk

end Source

end TableGateway
