import TableGateway.CommandLine.Reader
import TableGateway.Proofs.Cutting
import TableGateway.Proofs.Fallible

-- The laws of command lines. What is taken from arguments is what they say, flag by flag:
-- nothing is dropped, nothing is said by another flag, and no flag counts twice.

namespace TableGateway.CommandLine

open Fallible

/-! ## What arguments say -/

/-- One thing that arguments say: a flag with its value, or a flag that stands alone. -/
inductive Saying where
  | gives (flag : ValueFlag) (value : String)
  | turnsOn (switch : Switch)
deriving Repr, DecidableEq

/-- The value that a saying gives a flag. -/
def Saying.valueOf? (flag : ValueFlag) : Saying → Option String
  | gives other value => if other = flag then some value else none
  | turnsOn _ => none

/-- The values of a flag, in the order in which they are given. -/
def values (flag : ValueFlag) (said : List Saying) : List String :=
  said.filterMap (Saying.valueOf? flag)

theorem values_append (flag : ValueFlag) (said more : List Saying) :
    values flag (said ++ more) = values flag said ++ values flag more :=
  List.filterMap_append

theorem values_gives (flag other : ValueFlag) (value : String) :
    values flag [.gives other value] = if other = flag then [value] else [] := by
  unfold values
  by_cases h : other = flag
  · simp [Saying.valueOf?, h]
  · simp [Saying.valueOf?, h]

theorem values_turnsOn (flag : ValueFlag) (switch : Switch) :
    values flag [.turnsOn switch] = [] :=
  rfl

/-- A text that is not read as a flag: it starts with no hyphen, or is a hyphen alone. -/
def IsWord (text : String) : Prop :=
  text.toList.head? ≠ some '-' ∨ text = "-"

/-- What arguments say, read from the first to the last, and the flag whose value has to come
next. A long name has its value after an equals sign or in the next argument, and so has a
letter, whose value may also follow without a mark. -/
inductive Reads : List String → List Saying → Option ValueFlag → Prop
  | nothing : Reads [] [] none
  | attached {arguments said} (name value : String) (flag : ValueFlag) :
      (name, flag) ∈ ValueFlag.longNames → Reads arguments said none →
      Reads (arguments ++ ["--" ++ name ++ "=" ++ value]) (said ++ [.gives flag value]) none
  | named {arguments said} (name : String) (flag : ValueFlag) :
      (name, flag) ∈ ValueFlag.longNames → Reads arguments said none →
      Reads (arguments ++ ["--" ++ name]) said (some flag)
  | marked {arguments said} (letter : Char) (value : String) (flag : ValueFlag) :
      (letter, flag) ∈ ValueFlag.letters → Reads arguments said none →
      Reads (arguments ++ ["-" ++ String.singleton letter ++ "=" ++ value])
        (said ++ [.gives flag value]) none
  | joined {arguments said} (letter : Char) (value : String) (flag : ValueFlag) :
      (letter, flag) ∈ ValueFlag.letters → value ≠ "" → value.toList.head? ≠ some '=' →
      Reads arguments said none →
      Reads (arguments ++ ["-" ++ String.singleton letter ++ value]) (said ++ [.gives flag value])
        none
  | lettered {arguments said} (letter : Char) (flag : ValueFlag) :
      (letter, flag) ∈ ValueFlag.letters → Reads arguments said none →
      Reads (arguments ++ ["-" ++ String.singleton letter]) said (some flag)
  | followed {arguments said} (value : String) (flag : ValueFlag) :
      IsWord value → Reads arguments said (some flag) →
      Reads (arguments ++ [value]) (said ++ [.gives flag value]) none
  | alone {arguments said} (name : String) (switch : Switch) :
      (name, switch) ∈ Switch.longNames → Reads arguments said none →
      Reads (arguments ++ ["--" ++ name]) (said ++ [.turnsOn switch]) none

theorem mem_of_lookup {α β : Type} [BEq α] [LawfulBEq α] {key : α} {value : β}
    {entries : List (α × β)} (h : entries.lookup key = some value) : (key, value) ∈ entries := by
  obtain ⟨before, after, rfl, _⟩ := List.lookup_eq_some_iff.mp h
  exact List.mem_append_right before List.mem_cons_self

/-! ## Forms of arguments -/

namespace Argument

/-- A word is the text itself. -/
theorem ofText_word {text word : String} (h : ofText text = .word word) :
    text = word ∧ IsWord word := by
  unfold ofText at h
  split at h
  · split at h <;> cases h
  · cases h
  · rename_i hlong hshort
    cases h
    refine ⟨rfl, ?_⟩
    unfold IsWord
    by_cases hhead : text.toList.head? = some '-'
    · obtain ⟨rest, hlist⟩ := List.head?_eq_some_iff.mp hhead
      cases rest with
      | nil => exact .inr (String.toList_inj.mp hlist)
      | cons letter rest => exact absurd hlist (hshort letter rest)
    · exact .inl hhead

theorem ofText_short {text : String} {letter : Char} {rest : List Char}
    (h : ofText text = .short letter rest) :
    text = "-" ++ String.singleton letter ++ String.ofList rest := by
  unfold ofText at h
  split at h
  · split at h <;> cases h
  · rename_i hlist
    cases h
    exact String.toList_inj.mp (by simpa using hlist)
  · cases h

theorem ofText_long {text name : String} {value : Option String}
    (h : ofText text = .long name value) :
    text = "--" ++ name ++ (value.map fun v => "=" ++ v).getD "" := by
  unfold ofText at h
  split at h
  · rename_i rest hlist
    split at h
    · rename_i name' value' hcut
      cases h
      obtain ⟨hrest, _⟩ := Text.cutAt_eq_some.mp hcut
      rw [String.toList_ofList] at hrest
      exact String.toList_inj.mp (by simp [hlist, hrest])
    · cases h
      exact String.toList_inj.mp (by simp [hlist])
  · cases h
  · cases h

end Argument

/-! ## What flags hold -/

theorem once_eq_ok {α : Type} {given after : Option α} {value : Except Refusal α} :
    once given value = .ok after ↔ given = none ∧ ∃ a, value = .ok a ∧ after = some a := by
  unfold once
  cases given with
  | none => exact map_eq_ok.trans (by simp [eq_comm])
  | some a => simp

theorem pathOf_eq_ok {value path : String} :
    pathOf value = .ok path ↔ value ≠ "" ∧ path = value := by
  unfold pathOf
  split
  · simp [*]
  · simp [*, eq_comm]

namespace Flags

/-- Flags tell what is said. Each but the one for tables is given once at most, and paths are not
empty. -/
structure Tell (flags : Flags) (said : List Saying) : Prop where
  config : values .config said = flags.config.toList
  dsn : values .dsn said = flags.dsn.toList
  host : values .host said = flags.host.toList
  port : (values .port said).map portOf = flags.port.toList.map .ok
  socketPath : values .socketPath said = flags.socketPath.toList
  allowTables : values .allowTable said = flags.allowTables
  rsaPublicKey : values .rsaPublicKey said = flags.rsaPublicKey.toList
  tokenFile : values .tokenFile said = flags.tokenFile.toList
  logLevel : values .logLevel said = flags.logLevel.toList
  authDisabled : .turnsOn .authDisabled ∈ said ↔ flags.authDisabled = true
  logJson : .turnsOn .logJson ∈ said ↔ flags.logJson = true

theorem tell_nothing : ({} : Flags).Tell [] := by
  constructor <;> simp [values]

/-- A flag with a value adds what it says. -/
theorem tell_put {flags flags' : Flags} {said : List Saying} {flag : ValueFlag} {value : String}
    (h : flags.Tell said) (put : flags.put flag value = .ok flags') :
    flags'.Tell (said ++ [.gives flag value]) := by
  obtain ⟨hconfig, hdsn, hhost, hport, hsocket, htables, hrsa, htoken, hlevel, hdisabled, hjson⟩ :=
    h
  unfold Flags.put at put
  cases flag with
  | allowTable =>
    cases pure_eq_ok.mp put
    constructor <;> simp [values_append, values_gives, *]
  | port =>
    obtain ⟨_, honce, hflags⟩ := bind_eq_ok.mp put
    cases pure_eq_ok.mp hflags
    obtain ⟨hnone, port, hvalue, rfl⟩ := once_eq_ok.mp honce
    constructor <;> simp [values_append, values_gives, *]
  | config | socketPath | rsaPublicKey | tokenFile =>
    obtain ⟨_, honce, hflags⟩ := bind_eq_ok.mp put
    cases pure_eq_ok.mp hflags
    obtain ⟨hnone, path, hvalue, rfl⟩ := once_eq_ok.mp honce
    obtain ⟨_, rfl⟩ := pathOf_eq_ok.mp hvalue
    constructor <;> simp [values_append, values_gives, *]
  | dsn | host | logLevel =>
    obtain ⟨_, honce, hflags⟩ := bind_eq_ok.mp put
    cases pure_eq_ok.mp hflags
    obtain ⟨hnone, text, hvalue, rfl⟩ := once_eq_ok.mp honce
    cases hvalue
    constructor <;> simp [values_append, values_gives, *]

/-- A flag that stands alone adds what it says. -/
theorem tell_turnOn {flags flags' : Flags} {said : List Saying} {switch : Switch}
    (h : flags.Tell said) (turnOn : flags.turnOn switch = .ok flags') :
    flags'.Tell (said ++ [.turnsOn switch]) := by
  obtain ⟨hconfig, hdsn, hhost, hport, hsocket, htables, hrsa, htoken, hlevel, hdisabled, hjson⟩ :=
    h
  unfold Flags.turnOn at turnOn
  cases switch with
  | authDisabled | logJson =>
    simp only at turnOn
    split at turnOn
    · cases turnOn
    · cases turnOn
      constructor <;> simp [values_append, values_turnsOn, *]

end Flags

/-! ## One argument more -/

namespace Progress

/-- The flag whose value has to come next. -/
def awaited (progress : Progress) : Option ValueFlag :=
  match progress.pending with
  | some (flag, none) => some flag
  | _ => none

/-- What is said already and not taken yet. -/
def held (progress : Progress) : List Saying :=
  match progress.pending with
  | some (flag, some value) => [.gives flag value]
  | _ => []

/-- What is read so far is what the arguments say: the flags tell all of it but what is held. -/
def After (progress : Progress) (arguments : List String) : Prop :=
  ∃ said, Reads arguments (said ++ progress.held) progress.awaited ∧ progress.flags.Tell said

variable {progress progress' : Progress} {arguments : List String}

theorem after_nothing : After {} [] :=
  ⟨[], .nothing, Flags.tell_nothing⟩

/-- Once all is taken, the flags tell all that the arguments say, and no value is missing. -/
theorem tell_settled {flags : Flags} (after : progress.After arguments)
    (h : progress.settled = .ok flags) : ∃ said, Reads arguments said none ∧ flags.Tell said := by
  obtain ⟨said, hreads, htell⟩ := after
  unfold settled at h
  unfold held awaited at hreads
  split at h
  · rename_i hpending
    cases h
    rw [hpending] at hreads
    exact ⟨said, by simpa using hreads, htell⟩
  · cases h
  · rename_i flag value hpending
    rw [hpending] at hreads
    exact ⟨said ++ [.gives flag value], hreads, Flags.tell_put htell h⟩

theorem after_attached {flag : ValueFlag} {value text : String} (after : progress.After arguments)
    (h : progress.attached flag value = .ok progress')
    (reads : ∀ said, Reads arguments said none →
      Reads (arguments ++ [text]) (said ++ [.gives flag value]) none) :
    progress'.After (arguments ++ [text]) := by
  obtain ⟨flags, hsettled, h⟩ := bind_eq_ok.mp h
  obtain ⟨flags', hput, h⟩ := bind_eq_ok.mp h
  cases pure_eq_ok.mp h
  obtain ⟨said, hreads, htell⟩ := tell_settled after hsettled
  exact ⟨said ++ [.gives flag value], by simpa [held, awaited] using reads said hreads,
    Flags.tell_put htell hput⟩

theorem after_started {flag : ValueFlag} {text : String} (after : progress.After arguments)
    (h : progress.started flag = .ok progress')
    (reads : ∀ said, Reads arguments said none → Reads (arguments ++ [text]) said (some flag)) :
    progress'.After (arguments ++ [text]) := by
  obtain ⟨flags, hsettled, h⟩ := bind_eq_ok.mp h
  cases pure_eq_ok.mp h
  obtain ⟨said, hreads, htell⟩ := tell_settled after hsettled
  exact ⟨said, by simpa [held, awaited] using reads said hreads, htell⟩

theorem help_ne_ok : progress.help ≠ .ok progress' := by
  intro h
  obtain ⟨_, _, h⟩ := bind_eq_ok.mp h
  cases h

theorem after_long {name : String} {value : Option String} (after : progress.After arguments)
    (h : progress.long name value = .ok progress') :
    progress'.After (arguments ++ ["--" ++ name ++ (value.map fun v => "=" ++ v).getD ""]) := by
  unfold long at h
  split at h
  · rename_i flag hflag
    have hmem := mem_of_lookup hflag
    cases value with
    | none =>
      exact after_started after h fun said hreads => by simpa using hreads.named name flag hmem
    | some value =>
      exact after_attached after h fun said hreads => by
        simpa [String.append_assoc] using hreads.attached name value flag hmem
  · rename_i switch _ hswitch
    have hmem := mem_of_lookup hswitch
    unfold Progress.switch at h
    split at h
    · cases h
    · obtain ⟨flags, hsettled, h⟩ := bind_eq_ok.mp h
      obtain ⟨flags', hturn, h⟩ := bind_eq_ok.mp h
      cases pure_eq_ok.mp h
      obtain ⟨said, hreads, htell⟩ := tell_settled after hsettled
      exact ⟨said ++ [.turnsOn switch], by
        simpa [held, awaited] using hreads.alone name switch hmem, Flags.tell_turnOn htell hturn⟩
  · split at h
    · split at h
      · cases h
      · exact absurd h help_ne_ok
    · cases h

theorem after_short {letter : Char} {rest : List Char} (after : progress.After arguments)
    (h : progress.short letter rest = .ok progress') :
    progress'.After (arguments ++ ["-" ++ String.singleton letter ++ String.ofList rest]) := by
  unfold short at h
  split at h
  · rename_i flag hflag
    have hmem := mem_of_lookup hflag
    unfold letterValue at h
    split at h
    · exact after_started after h fun said hreads => by
        simpa using hreads.lettered letter flag hmem
    · rename_i value
      have htext : "-" ++ String.singleton letter ++ String.ofList ('=' :: value) =
          "-" ++ String.singleton letter ++ "=" ++ String.ofList value :=
        String.toList_inj.mp (by simp)
      rw [htext]
      exact after_attached after h fun said hreads =>
        hreads.marked letter (String.ofList value) flag hmem
    · rename_i hsome hunmarked
      have hvalue : String.ofList rest ≠ "" := fun heq =>
        hsome (by simpa using congrArg String.toList heq)
      have hhead : (String.ofList rest).toList.head? ≠ some '=' := by
        rw [String.toList_ofList]
        intro hhead
        obtain ⟨value, hlist⟩ := List.head?_eq_some_iff.mp hhead
        exact hunmarked value hlist
      exact after_attached after h fun said hreads =>
        hreads.joined letter (String.ofList rest) flag hmem hvalue hhead
  · split at h
    · exact absurd h help_ne_ok
    · cases h

theorem after_word {word : String} (isWord : IsWord word) (after : progress.After arguments)
    (h : progress.word word = .ok progress') : progress'.After (arguments ++ [word]) := by
  obtain ⟨said, hreads, htell⟩ := after
  unfold Progress.word at h
  split at h
  · rename_i flag hpending
    cases h
    unfold held awaited at hreads
    rw [hpending] at hreads
    exact ⟨said, by simpa [held, awaited] using hreads.followed word flag isWord, htell⟩
  · cases h

/-- One argument more is read as what it says. -/
theorem after_take {text : String} (after : progress.After arguments)
    (h : progress.take text = .ok progress') : progress'.After (arguments ++ [text]) := by
  unfold take at h
  split at h
  · rename_i name value hform
    rw [Argument.ofText_long hform]
    exact after_long after h
  · rename_i letter rest hform
    rw [Argument.ofText_short hform]
    exact after_short after h
  · rename_i word hform
    obtain ⟨rfl, hword⟩ := Argument.ofText_word hform
    exact after_word hword after h

/-- Any number of arguments more are read as what they say. -/
theorem after_foldlM {more : List String} (after : progress.After arguments)
    (h : more.foldlM take progress = .ok progress') : progress'.After (arguments ++ more) := by
  induction more generalizing progress arguments with
  | nil =>
    rw [List.foldlM_nil] at h
    cases pure_eq_ok.mp h
    simpa using after
  | cons text more ih =>
    rw [List.foldlM_cons] at h
    obtain ⟨next, htake, h⟩ := bind_eq_ok.mp h
    simpa using ih (after_take after htake) h

end Progress

/-! ## Command lines -/

theorem checked_eq_ok {flags flags' : Flags} : flags.checked = .ok flags' ↔
    flags' = flags ∧ (flags.rsaPublicKey = none ∨ flags.tokenFile = none) := by
  unfold Flags.checked
  cases flags.rsaPublicKey <;> cases flags.tokenFile <;> simp [eq_comm]

/-- A list with nothing behind a mark ends before the mark or with it. -/
theorem ends_at_mark {mark : String} {texts : List String}
    (h : (texts.dropWhile (· ≠ mark)).drop 1 = []) :
    texts = texts.takeWhile (· ≠ mark) ∨ texts = texts.takeWhile (· ≠ mark) ++ [mark] := by
  induction texts with
  | nil => exact .inl rfl
  | cons text rest ih =>
    by_cases heq : text = mark
    · obtain rfl : rest = [] := by simpa [heq] using h
      exact .inr (by simp [heq])
    · rw [List.takeWhile_cons_of_pos (by simpa using heq), List.cons_append, List.cons.injEq,
        List.cons.injEq]
      rw [List.dropWhile_cons_of_pos (by simpa using heq)] at h
      exact (ih h).imp (And.intro rfl) (And.intro rfl)

/-- Flags that are read tell what their arguments say, up to a separator with nothing behind it.
Two kinds of key are never among them. -/
theorem tell_readFlags {arguments : List String} {flags : Flags}
    (h : readFlags arguments = .ok flags) : ∃ spoken said,
      (arguments = spoken ∨ arguments = spoken ++ [separator]) ∧ Reads spoken said none ∧
      flags.Tell said ∧ (flags.rsaPublicKey = none ∨ flags.tokenFile = none) := by
  obtain ⟨progress, hfold, h⟩ := bind_eq_ok.mp h
  split at h
  · cases h
  · rename_i hrest
    obtain ⟨flags', hsettled, hchecked⟩ := bind_eq_ok.mp h
    obtain ⟨rfl, hkeys⟩ := checked_eq_ok.mp hchecked
    obtain ⟨said, hreads, htell⟩ :=
      Progress.tell_settled (Progress.after_foldlM Progress.after_nothing hfold) hsettled
    exact ⟨_, said, ends_at_mark hrest, hreads, htell, hkeys⟩

/-- A command line that is accepted starts with the command that serves. Its flags tell what the
other arguments say, and the source name from the environment counts where they give none. -/
theorem tell_read {arguments : List String} {dsn : Option String} {flags : Flags}
    (h : read arguments dsn = .ok flags) : ∃ (spoken : List String) (said : List Saying)
      (given : Flags),
      (arguments = serveCommand :: spoken ∨ arguments = serveCommand :: (spoken ++ [separator])) ∧
      Reads spoken said none ∧ given.Tell said ∧ flags = given.withDsn dsn ∧
      (given.rsaPublicKey = none ∨ given.tokenFile = none) := by
  unfold read at h
  split at h
  · cases h
  · rename_i first rest
    split at h
    · cases h
    · split at h
      · cases h
      · cases h
      · rename_i name hform
        obtain ⟨rfl, _⟩ := Argument.ofText_word hform
        split at h
        · rename_i hserve
          obtain ⟨given, hread, rfl⟩ := map_eq_ok.mp h
          obtain ⟨spoken, said, hspoken, hreads, htell, hkeys⟩ := tell_readFlags hread
          refine ⟨spoken, said, given, ?_, hreads, htell, rfl, hkeys⟩
          rw [hserve]
          exact hspoken.imp (congrArg _) (congrArg _)
        · split at h <;> cases h

end TableGateway.CommandLine
