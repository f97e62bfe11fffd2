import Mathlib.Logic.Function.Basic
import TableGateway.Auth.Authenticator

-- The laws of the key file. What is kept of it is not seen from outside: as long as a time of
-- change stands for one content, each reader gets what the disk has at that moment.

namespace TableGateway

/-! ## Reading without keeping -/

/-- Reads the file, and keeps nothing. -/
def KeyFile.readFresh (found : Except String KeyFile) : Except Fault (List UInt8) :=
  match found with
  | .error text => .error (.io text)
  | .ok file => .ok file.content

/-- Checks an authorization header with the file as it is. -/
def Authenticator.verdictFresh (authenticator : Authenticator) (found : Except String KeyFile)
    (now : Nat) (header : Option String) : Except Fault Unit :=
  match authenticator with
  | disabled => .ok ()
  | enabled kind _ =>
    (tokenOf header).bind fun token => verifyWith kind now token (KeyFile.readFresh found)

namespace KeyFile

theorem current_eq_or (cache : Cache) (file : KeyFile) :
    current cache file = file ∨
      cache = some (current cache file) ∧ (current cache file).changed = file.changed := by
  unfold current
  cases cache with
  | none => exact .inl rfl
  | some kept =>
    by_cases h : kept.changed = file.changed
    · simp [h]
    · simp [h]

/-- What is kept is as good as the file: it has the content of the file if it has its time. -/
def Fits (found : Except String KeyFile) (cache : Cache) : Prop :=
  ∀ file kept, found = .ok file → cache = some kept → kept.changed = file.changed →
    kept.content = file.content

theorem read_eq_fresh {found : Except String KeyFile} {cache : Cache} (fits : Fits found cache) :
    (read found cache).1 = readFresh found := by
  cases found with
  | error text => rfl
  | ok file =>
    rcases current_eq_or cache file with h | ⟨hcache, hchanged⟩
    · simp [read, readFresh, h]
    · simp [read, readFresh, fits file _ rfl hcache hchanged]

/-- After a reading, what was kept before is kept still, or the file as it was found. -/
theorem kept_of_read {found : Except String KeyFile} {cache : Cache} {kept : KeyFile}
    (h : (read found cache).2 = some kept) : cache = some kept ∨ found = .ok kept := by
  cases found with
  | error text => exact .inl h
  | ok file =>
    obtain rfl : current cache file = kept := Option.some.inj h
    rcases current_eq_or cache file with h | ⟨hcache, _⟩
    · exact .inr (by rw [h])
    · exact .inl hcache

end KeyFile

namespace Authenticator

variable {authenticator : Authenticator} {found : Except String KeyFile} {now : Nat}
  {cache : KeyFile.Cache} {header : Option String}

theorem authenticate_eq_fresh (fits : KeyFile.Fits found cache) :
    (authenticator.authenticate found now cache header).1 =
      authenticator.verdictFresh found now header := by
  unfold authenticate verdictFresh
  cases authenticator with
  | disabled => rfl
  | enabled kind path =>
    cases tokenOf header with
    | error fault => rfl
    | ok token =>
      change verifyWith kind now token (KeyFile.read found cache).1 = _
      rw [KeyFile.read_eq_fresh fits]
      rfl

/-- An authentication keeps what a reading keeps, or what was kept before. -/
theorem kept_of_authenticate (authenticator : Authenticator) (found : Except String KeyFile)
    (now : Nat) (cache : KeyFile.Cache) (header : Option String) :
    (authenticator.authenticate found now cache header).2 = cache ∨
    (authenticator.authenticate found now cache header).2 = (KeyFile.read found cache).2 := by
  unfold authenticate
  cases authenticator with
  | disabled => exact .inl rfl
  | enabled kind path =>
    cases tokenOf header with
    | error fault => exact .inl rfl
    | ok token => exact .inr rfl

end Authenticator

/-! ## Histories -/

namespace KeyFile

variable {Reader : Type}

/-- What happens around a key file: it is replaced or removed, it is read, or a header is
checked with it at some moment. -/
inductive Event (Reader : Type) where
  | replaced (file : KeyFile)
  | removed
  | read (reader : Reader)
  | authenticated (reader : Reader) (now : Nat) (header : Option String)

/-- What is heard of an event. -/
inductive Reply where
  | nothing
  | content (result : Except Fault (List UInt8))
  | verdict (result : Except Fault Unit)

/-- The file on the disk, and what each reader keeps of it. -/
structure World (Reader : Type) where
  file : Option KeyFile := none
  caches : Reader → Cache := fun _ => none

/-- What the system finds where the file should be. -/
def found (file : Option KeyFile) : Except String KeyFile :=
  match file with
  | none => .error missingText
  | some file => .ok file

/-- A reader keeps something else. -/
def World.keep [DecidableEq Reader] (world : World Reader) (reader : Reader) (cache : Cache) :
    World Reader :=
  { world with caches := Function.update world.caches reader cache }

/-- One event, with readers that keep what they read. -/
def step [DecidableEq Reader] (who : Reader → Authenticator) (world : World Reader) :
    Event Reader → Reply × World Reader
  | .replaced file => (.nothing, { world with file := some file })
  | .removed => (.nothing, { world with file := none })
  | .read reader =>
    let (result, kept) := KeyFile.read (found world.file) (world.caches reader)
    (.content result, world.keep reader kept)
  | .authenticated reader now header =>
    let (result, kept) :=
      (who reader).authenticate (found world.file) now (world.caches reader) header
    (.verdict result, world.keep reader kept)

/-- A history, with readers that keep what they read. -/
def run [DecidableEq Reader] (who : Reader → Authenticator) (world : World Reader) :
    List (Event Reader) → List Reply × World Reader
  | [] => ([], world)
  | event :: rest =>
    let (reply, world) := step who world event
    let (replies, world) := run who world rest
    (reply :: replies, world)

/-- One event, with readers that keep nothing. -/
def stepFresh (who : Reader → Authenticator) (file : Option KeyFile) :
    Event Reader → Reply × Option KeyFile
  | .replaced file => (.nothing, some file)
  | .removed => (.nothing, none)
  | .read _ => (.content (readFresh (found file)), file)
  | .authenticated reader now header =>
    (.verdict ((who reader).verdictFresh (found file) now header), file)

/-- A history, with readers that keep nothing. -/
def runFresh (who : Reader → Authenticator) (file : Option KeyFile) :
    List (Event Reader) → List Reply
  | [] => []
  | event :: rest =>
    let (reply, file) := stepFresh who file event
    reply :: runFresh who file rest

/-! ## Files of the past -/

/-- The file that an event puts on the disk. -/
def Event.file? : Event Reader → Option KeyFile
  | .replaced file => some file
  | _ => none

/-- The files that a history puts on the disk. -/
def filesOf (events : List (Event Reader)) : List KeyFile :=
  events.filterMap Event.file?

theorem filesOf_cons (event : Event Reader) (rest : List (Event Reader)) :
    filesOf (event :: rest) = event.file?.toList ++ filesOf rest := by
  unfold filesOf
  cases h : event.file? <;> simp [h]

/-- A time of change stands for one content. -/
def Timely (files : List KeyFile) : Prop :=
  ∀ file ∈ files, ∀ other ∈ files, file.changed = other.changed → file.content = other.content

theorem Timely.past {past more : List KeyFile} (h : Timely (past ++ more)) : Timely past :=
  fun file hfile other hother =>
    h file (List.mem_append_left more hfile) other (List.mem_append_left more hother)

/-- What is on the disk or kept was put on the disk. -/
structure World.Remembers (world : World Reader) (past : List KeyFile) : Prop where
  onDisk : ∀ file, world.file = some file → file ∈ past
  kept : ∀ reader file, world.caches reader = some file → file ∈ past

theorem found_eq_ok {file : Option KeyFile} {other : KeyFile} :
    found file = .ok other ↔ file = some other := by
  cases file with
  | none => simp [found]
  | some file => simp [found]

namespace World.Remembers

theorem start : World.Remembers ({} : World Reader) [] where
  onDisk _ h := by cases h
  kept _ _ h := by cases h

variable {world : World Reader} {past : List KeyFile}

/-- What a reader keeps fits to the disk, if each time stands for one content. -/
theorem fits (h : world.Remembers past) (timely : Timely past) (reader : Reader) :
    Fits (found world.file) (world.caches reader) := by
  intro file kept hfile hkept hchanged
  exact timely kept (h.kept reader kept hkept) file (h.onDisk file (found_eq_ok.mp hfile)) hchanged

theorem mono (h : world.Remembers past) (more : List KeyFile) :
    world.Remembers (past ++ more) where
  onDisk file hfile := List.mem_append_left more (h.onDisk file hfile)
  kept reader file hkept := List.mem_append_left more (h.kept reader file hkept)

end World.Remembers

/-! ## One event -/

variable [DecidableEq Reader] {who : Reader → Authenticator} {world : World Reader}
  {past : List KeyFile}

/-- A reader may keep what it kept, or what it found. -/
theorem World.Remembers.keep (h : world.Remembers past) {reader : Reader} {cache : Cache}
    (hcache : ∀ kept, cache = some kept →
      world.caches reader = some kept ∨ found world.file = .ok kept) :
    (world.keep reader cache).Remembers past where
  onDisk := h.onDisk
  kept other file hkept := by
    unfold World.keep at hkept
    by_cases hother : other = reader
    · subst hother
      rcases hcache file (by simpa using hkept) with hkept | hfound
      · exact h.kept other file hkept
      · exact h.onDisk file (found_eq_ok.mp hfound)
    · exact h.kept other file (by simpa [hother] using hkept)

/-- What one event leaves behind was put on the disk before it, or by it. -/
theorem step_remembers (h : world.Remembers past) (event : Event Reader) :
    (step who world event).2.Remembers (past ++ event.file?.toList) := by
  cases event with
  | replaced file =>
    refine ⟨fun other hother => ?_, (h.mono [file]).kept⟩
    cases hother
    exact List.mem_append_right past (List.mem_singleton_self _)
  | removed =>
    refine ⟨fun other hother => ?_, (h.mono []).kept⟩
    cases hother
  | read reader => exact (h.keep fun kept hkept => kept_of_read hkept).mono []
  | authenticated reader now header =>
    refine (h.keep fun kept hkept => ?_).mono []
    rcases Authenticator.kept_of_authenticate (who reader) (found world.file) now
      (world.caches reader) header with heq | heq
    · exact .inl (heq.symm.trans hkept)
    · exact kept_of_read (heq.symm.trans hkept)

/-- The disk changes in the same way, whether readers keep something or not. -/
theorem step_file (who : Reader → Authenticator) (world : World Reader) (event : Event Reader) :
    (step who world event).2.file = (stepFresh who world.file event).2 := by
  cases event <;> rfl

/-- What is heard is the same, whether readers keep something that fits or nothing. -/
theorem step_reply (fits : ∀ reader, Fits (found world.file) (world.caches reader))
    (event : Event Reader) : (step who world event).1 = (stepFresh who world.file event).1 := by
  cases event with
  | replaced file | removed => rfl
  | read reader => exact congrArg Reply.content (read_eq_fresh (fits reader))
  | authenticated reader now header =>
    exact congrArg Reply.verdict (Authenticator.authenticate_eq_fresh (fits reader))

/-- A reading that fails changes nothing. -/
theorem step_missing (missing : world.file = none) (event : Event Reader)
    (reads : event.file? = none) : (step who world event).2 = world := by
  have hkeep (reader : Reader) (cache : Cache) (h : cache = world.caches reader) :
      world.keep reader cache = world := by
    unfold World.keep
    rw [h, Function.update_eq_self]
  cases event with
  | replaced file => cases reads
  | removed =>
    cases world
    exact congrArg (World.mk · _) missing.symm
  | read reader =>
    refine hkeep reader _ ?_
    rw [missing]
    rfl
  | authenticated reader now header =>
    refine hkeep reader _ ?_
    rw [missing]
    rcases Authenticator.kept_of_authenticate (who reader) (found none) now
      (world.caches reader) header with heq | heq <;> exact heq

/-! ## A whole history -/

theorem run_remembers (h : world.Remembers past) (events : List (Event Reader)) :
    (run who world events).2.Remembers (past ++ filesOf events) := by
  induction events generalizing world past with
  | nil => exact h.mono []
  | cons event rest ih =>
    rw [filesOf_cons, ← List.append_assoc]
    exact ih (step_remembers h event)

/-- All replies are the same, whether readers keep something or nothing. -/
theorem run_eq_fresh (h : world.Remembers past) (events : List (Event Reader))
    (timely : Timely (past ++ filesOf events)) :
    (run who world events).1 = runFresh who world.file events := by
  induction events generalizing world past with
  | nil => rfl
  | cons event rest ih =>
    rw [filesOf_cons, ← List.append_assoc] at timely
    have hreply : (step who world event).1 = (stepFresh who world.file event).1 :=
      step_reply (fun reader => h.fits timely.past.past reader) event
    have hrest : (run who (step who world event).2 rest).1 =
        runFresh who (stepFresh who world.file event).2 rest := by
      rw [ih (step_remembers h event) timely, step_file]
    exact congrArg₂ List.cons hreply hrest

/-! ## The law -/

/-- What is kept of the key file is not seen. If no time of change stands for two contents, each
reading and each check of a header goes as if nothing was ever kept. While the file is missing,
that is told, and what is kept stays as it is. A file with a time of change that no file had
before counts at once. -/
theorem keeping_is_not_seen (who : Reader → Authenticator) (events : List (Event Reader)) :
    let start : World Reader := {}
    let world := (run who start events).2
    (Timely (filesOf events) → (run who start events).1 = runFresh who none events) ∧
    (world.file = none → ∀ reader,
      step who world (.read reader) = (.content (.error (.io missingText)), world) ∧
      ∀ now header, step who world (.authenticated reader now header) =
        (.verdict ((who reader).verdictFresh (.error missingText) now header), world)) ∧
    (∀ file, (∀ old ∈ filesOf events, old.changed ≠ file.changed) → ∀ reader,
      let rotated := (step who world (.replaced file)).2
      (step who rotated (.read reader)).1 = .content (.ok file.content) ∧
      ∀ now header, (step who rotated (.authenticated reader now header)).1 =
        .verdict ((who reader).verdictFresh (.ok file) now header)) := by
  intro start world
  have remembers : world.Remembers (filesOf events) :=
    run_remembers World.Remembers.start events
  refine ⟨fun timely => run_eq_fresh World.Remembers.start events timely, ?_, ?_⟩
  · intro missing reader
    have fits (reader : Reader) : Fits (found world.file) (world.caches reader) := by
      intro file kept hfile
      cases (found_eq_ok.mp hfile).symm.trans missing
    have told (event : Event Reader) (reads : event.file? = none) :
        step who world event = ((stepFresh who none event).1, world) := by
      rw [← missing]
      exact Prod.ext (step_reply fits event) (step_missing missing event reads)
    exact ⟨told (.read reader) rfl, fun now header => told (.authenticated reader now header) rfl⟩
  · intro file new reader rotated
    have fits (reader : Reader) : Fits (found rotated.file) (rotated.caches reader) := by
      intro other kept hother hkept hchanged
      cases hother
      exact absurd hchanged (new kept (remembers.kept reader kept hkept))
    exact ⟨step_reply fits (.read reader),
      fun now header => step_reply fits (.authenticated reader now header)⟩

/-- A key that is removed, and comes back as another one that was changed before. -/
theorem an_older_key_counts_at_once :
    let who : Bool → Authenticator := fun _ => .enabled .sharedSecret "key"
    let events : List (Event Bool) :=
      [.replaced ⟨Text.bytes "old", 5⟩, .read true, .read false, .removed, .read true,
        .authenticated false 0 (some "Bearer x"), .replaced ⟨Text.bytes "new", 3⟩,
        .authenticated false 0 none, .read true, .read false]
    let world := (run who {} events).2
    (run who {} events).1 =
      [.nothing, .content (.ok (Text.bytes "old")), .content (.ok (Text.bytes "old")), .nothing,
        .content (.error (.io missingText)),
        .verdict (.error (.unauthorized (Fault.io missingText).message)), .nothing,
        .verdict (.error (.unauthorized "missing auth header")),
        .content (.ok (Text.bytes "new")), .content (.ok (Text.bytes "new"))] ∧
    (step who (step who world (.replaced ⟨Text.bytes "next", 4⟩)).2 (.read true)).1 =
      .content (.ok (Text.bytes "next")) := by
  intro who events world
  obtain ⟨same, _, rotates⟩ := keeping_is_not_seen who events
  have timely : Timely (filesOf events) := by
    unfold Timely
    decide +kernel
  have new : ∀ old ∈ filesOf events, old.changed ≠ 4 := by
    decide +kernel
  refine ⟨?_, (rotates ⟨Text.bytes "next", 4⟩ new true).1⟩
  rw [same timely]
  rfl

-- Two contents with one time of change cannot be told apart.
example : (run (fun _ : Unit => .disabled) {} [.replaced ⟨[1], 5⟩, .read (), .replaced ⟨[2], 5⟩,
    .read ()]).1 = [.nothing, .content (.ok [1]), .nothing, .content (.ok [1])] :=
  rfl

end KeyFile

end TableGateway
