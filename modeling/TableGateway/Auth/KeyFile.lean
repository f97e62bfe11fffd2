import TableGateway.Fault

-- The key file and what is kept of it. The file is read again only when its
-- time of change is another one.

namespace TableGateway

/-- A file at one moment: its content and the time of its last change. -/
structure KeyFile where
  content : List UInt8
  changed : Int
deriving Repr, DecidableEq

namespace KeyFile

/-- The words of the system for a file that is not there. -/
def missingText : String := "No such file or directory (os error 2)"

/-- What is kept between readings: the file as it was last read. -/
abbrev Cache := Option KeyFile

/-- The file that a reading gives, as the disk has it or as it is kept. -/
def current (cache : Cache) (file : KeyFile) : KeyFile :=
  match cache with
  | some kept => if kept.changed = file.changed then kept else file
  | none => file

/-- Reads the file, or tells in the words of the system why it cannot be read. What is
kept afterwards comes with the content, and after a failure it is what was kept
before. -/
def read (found : Except String KeyFile) (cache : Cache) : Except Fault (List UInt8) × Cache :=
  match found with
  | .error text => (.error (.io text), cache)
  | .ok file => (.ok (current cache file).content, some (current cache file))

end KeyFile

end TableGateway
