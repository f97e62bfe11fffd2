import TableGateway.Proofs.Arguments
import TableGateway.StartUp

-- The laws of a start. Whom a server lets in is what the command line and the file of settings
-- say about it, the command line first. Where they do not say it well, there is no server.

namespace TableGateway

open Fallible

/-! ## What a file says -/

/-- What a document says in a field of one of its parts. -/
def Toml.Members.field? (members : Toml.Members) (part : String) (names : List String)
    (name : String) : Option Toml.Value :=
  (members.get? part).bind fun value =>
    (value.fields? names).bind fun fields => ((names.zip fields).lookup name).join

/-- The fields of the part for keys. -/
def AuthSettings.fieldNames : List String :=
  ["rsa_public_key_file", "token_file", "disabled"]

/-- The fields of the part for tables. -/
def AllowList.fieldNames : List String :=
  ["allowed_tables"]

/-- The fields of the part for the database. -/
def DatabaseSettings.fieldNames : List String :=
  ["dsn", "max_connections"]

/-- Settings are as a document says: which database is served, which tables are open, and whose
tokens are asked for. What it does not say has its usual value, which is nothing. -/
structure Settings.AreSaid (settings : Settings) (members : Toml.Members) : Prop where
  dsn : settings.database.dsn =
    ((members.field? "database" DatabaseSettings.fieldNames "dsn").bind Toml.Value.text?).getD ""
  tables : settings.security.tables = ((members.field? "security" AllowList.fieldNames
    "allowed_tables").bind Toml.Value.texts?).getD []
  rsaPublicKeyFile : settings.auth.rsaPublicKeyFile =
    (members.field? "auth" AuthSettings.fieldNames "rsa_public_key_file").bind Toml.Value.text?
  tokenFile : settings.auth.tokenFile =
    (members.field? "auth" AuthSettings.fieldNames "token_file").bind Toml.Value.text?
  disabled : settings.auth.disabled =
    ((members.field? "auth" AuthSettings.fieldNames "disabled").bind Toml.Value.boolean?).getD false

theorem fieldOr_eq_some {α : Type} {usual a : α} {read : Toml.Value → Option α}
    {field : Option Toml.Value} (h : fieldOr usual read field = some a) :
    a = (field.bind read).getD usual := by
  cases field with
  | none =>
    cases h
    rfl
  | some value =>
    have hread : read value = some a := h
    simp [hread]

/-- A field that may be missing is read as it is. -/
theorem fieldOr_none_eq_some {field : Option Toml.Value} {text : Option String}
    (h : fieldOr none (fun v => v.text?.map some) field = some text) :
    text = field.bind Toml.Value.text? := by
  cases field with
  | none =>
    cases h
    rfl
  | some value =>
    obtain ⟨s, hread, rfl⟩ := Option.map_eq_some_iff.mp h
    exact hread.symm

theorem AuthSettings.ofToml?_eq_some {value : Toml.Value} {auth : AuthSettings}
    (h : ofToml? value = some auth) : ∃ rsa token disabled,
      value.fields? fieldNames = some [rsa, token, disabled] ∧
      auth.rsaPublicKeyFile = rsa.bind Toml.Value.text? ∧
      auth.tokenFile = token.bind Toml.Value.text? ∧
      auth.disabled = (disabled.bind Toml.Value.boolean?).getD false := by
  obtain ⟨fields, hfields, h⟩ := Option.bind_eq_some_iff.mp h
  split at h
  · rename_i rsa token disabled
    obtain ⟨rsaFile, hrsa, h⟩ := Option.bind_eq_some_iff.mp h
    obtain ⟨tokenFile, htoken, h⟩ := Option.bind_eq_some_iff.mp h
    obtain ⟨off, hoff, h⟩ := Option.bind_eq_some_iff.mp h
    cases h
    exact ⟨rsa, token, disabled, hfields, fieldOr_none_eq_some hrsa, fieldOr_none_eq_some htoken,
      fieldOr_eq_some hoff⟩
  · cases h

theorem AllowList.ofToml?_eq_some {value : Toml.Value} {list : AllowList}
    (h : ofToml? value = some list) : ∃ tables, value.fields? fieldNames = some [tables] ∧
      list.tables = (tables.bind Toml.Value.texts?).getD [] := by
  obtain ⟨fields, hfields, h⟩ := Option.bind_eq_some_iff.mp h
  split at h
  · rename_i tables
    obtain ⟨names, hnames, rfl⟩ := Option.map_eq_some_iff.mp h
    exact ⟨tables, hfields, fieldOr_eq_some hnames⟩
  · cases h

theorem DatabaseSettings.ofToml?_eq_some {value : Toml.Value} {database : DatabaseSettings}
    (h : ofToml? value = some database) : ∃ dsn connections,
      value.fields? fieldNames = some [dsn, connections] ∧
      database.dsn = (dsn.bind Toml.Value.text?).getD "" := by
  obtain ⟨fields, hfields, h⟩ := Option.bind_eq_some_iff.mp h
  split at h
  · rename_i dsn connections
    obtain ⟨name, hname, h⟩ := Option.bind_eq_some_iff.mp h
    obtain ⟨count, _, h⟩ := Option.bind_eq_some_iff.mp h
    cases h
    exact ⟨dsn, connections, hfields, fieldOr_eq_some hname⟩
  · cases h

/-- A part of a document is missing, with all its fields, or it is read with the fields that are
said in it. -/
theorem part_eq_some {α : Type} {usual a : α} {read : Toml.Value → Option α}
    {members : Toml.Members} {part : String} (names : List String)
    (h : fieldOr usual read (members.get? part) = some a) :
    a = usual ∧ (∀ name, members.field? part names name = none) ∨
      ∃ value, read value = some a ∧ ∀ fields, value.fields? names = some fields →
        ∀ name, members.field? part names name = ((names.zip fields).lookup name).join := by
  unfold Toml.Members.field?
  cases hpart : members.get? part with
  | none =>
    rw [hpart] at h
    cases h
    exact .inl ⟨rfl, fun _ => rfl⟩
  | some value =>
    rw [hpart] at h
    exact .inr ⟨value, h, fun fields hfields name => by simp [hfields]⟩

theorem DatabaseSettings.eq_field {members : Toml.Members} {database : DatabaseSettings}
    (h : fieldOr {} ofToml? (members.get? "database") = some database) :
    database.dsn =
      ((members.field? "database" fieldNames "dsn").bind Toml.Value.text?).getD "" := by
  rcases part_eq_some fieldNames h with ⟨rfl, hnone⟩ | ⟨value, hread, hfield⟩
  · simp [hnone]
  · obtain ⟨dsn, connections, hfields, hdsn⟩ := ofToml?_eq_some hread
    rw [hfield _ hfields]
    exact hdsn

theorem AllowList.eq_field {members : Toml.Members} {list : AllowList}
    (h : fieldOr {} ofToml? (members.get? "security") = some list) :
    list.tables = ((members.field? "security" fieldNames "allowed_tables").bind
      Toml.Value.texts?).getD [] := by
  rcases part_eq_some fieldNames h with ⟨rfl, hnone⟩ | ⟨value, hread, hfield⟩
  · simp [hnone]
  · obtain ⟨tables, hfields, htables⟩ := ofToml?_eq_some hread
    rw [hfield _ hfields]
    exact htables

theorem AuthSettings.eq_fields {members : Toml.Members} {auth : AuthSettings}
    (h : fieldOr {} ofToml? (members.get? "auth") = some auth) :
    auth.rsaPublicKeyFile =
        (members.field? "auth" fieldNames "rsa_public_key_file").bind Toml.Value.text? ∧
      auth.tokenFile = (members.field? "auth" fieldNames "token_file").bind Toml.Value.text? ∧
      auth.disabled =
        ((members.field? "auth" fieldNames "disabled").bind Toml.Value.boolean?).getD false := by
  rcases part_eq_some fieldNames h with ⟨rfl, hnone⟩ | ⟨value, hread, hfield⟩
  · simp [hnone]
  · obtain ⟨rsa, token, disabled, hfields, hrsa, htoken, hdisabled⟩ := ofToml?_eq_some hread
    simp only [hfield _ hfields]
    exact ⟨hrsa, htoken, hdisabled⟩

/-- Settings of a document are as it says. -/
theorem Settings.areSaid_of_members {members : Toml.Members} {settings : Settings}
    (h : ofMembers? members = some settings) : settings.AreSaid members := by
  obtain ⟨_, _, h⟩ := Option.bind_eq_some_iff.mp h
  obtain ⟨database, hdatabase, h⟩ := Option.bind_eq_some_iff.mp h
  obtain ⟨auth, hauth, h⟩ := Option.bind_eq_some_iff.mp h
  obtain ⟨security, hsecurity, h⟩ := Option.bind_eq_some_iff.mp h
  obtain ⟨_, _, h⟩ := Option.bind_eq_some_iff.mp h
  cases h
  obtain ⟨hrsa, htoken, hdisabled⟩ := AuthSettings.eq_fields hauth
  exact ⟨DatabaseSettings.eq_field hdatabase, AllowList.eq_field hsecurity, hrsa, htoken, hdisabled⟩

/-- The settings before the command line: the usual ones where no file is named, or what the
document in the file says. -/
def Settings.ComeFrom (settings : Settings) (disk : Disk) (path : Option String) : Prop :=
  path = none ∧ settings = {} ∨
    ∃ name text members, path = some name ∧ disk.readText name = .ok text ∧
      Toml.read text = some members ∧ settings.AreSaid members

theorem Settings.comeFrom_of_file {disk : Disk} {path : Option String} {settings : Settings}
    (h : ofFile disk path = .ok settings) : settings.ComeFrom disk path := by
  unfold ofFile at h
  split at h
  · cases h
    exact .inl ⟨rfl, rfl⟩
  · rename_i name
    split at h
    · cases h
    · rename_i text htext
      split at h
      · cases h
      · rename_i file hfile
        cases h
        obtain ⟨members, hread, hmembers⟩ := Option.bind_eq_some_iff.mp hfile
        exact .inr ⟨name, text, members, rfl, htext, hread, areSaid_of_members hmembers⟩

/-! ## Keys -/

/-- All keys that settings name, with their kinds. -/
def AuthSettings.keys (auth : AuthSettings) : List (KeyKind × String) :=
  auth.rsaPublicKeyFile.toList.map (.rsaPublicKey, ·) ++
    auth.tokenFile.toList.map (.sharedSecret, ·)

/-- An authenticator asks for nothing where it is told so, and otherwise for tokens of the only
key that is named. -/
theorem AuthSettings.authenticator_eq_ok {auth : AuthSettings} {authenticator : Authenticator} :
    auth.authenticator = .ok authenticator ↔
      auth.disabled = true ∧ authenticator = .disabled ∨
        auth.disabled = false ∧ ∃ kind path, auth.keys = [(kind, path)] ∧
          authenticator = .enabled kind path := by
  obtain ⟨rsa, token, disabled⟩ := auth
  unfold AuthSettings.authenticator keys
  cases disabled with
  | true => simp [eq_comm]
  | false => cases rsa <;> cases token <;> simp [eq_comm]

/-- Without one key, and with two, there is no authenticator that asks for tokens. -/
theorem AuthSettings.authenticator_refused {auth : AuthSettings} (asks : auth.disabled = false)
    (keys : auth.keys.length ≠ 1) : ∃ text, auth.authenticator = .error (.config text) := by
  obtain ⟨rsa, token, disabled⟩ := auth
  obtain rfl : disabled = false := asks
  unfold AuthSettings.keys at keys
  cases rsa <;> cases token <;> simp [AuthSettings.authenticator] at keys ⊢

/-- The key file that is read is that of the only key. -/
theorem AuthSettings.keyFile_eq {auth : AuthSettings} {kind : KeyKind} {path : String}
    (only : auth.keys = [(kind, path)]) (disk : Disk) :
    auth.keyFile disk = (disk.file path).mapError PathFault.message := by
  obtain ⟨rsa, token, disabled⟩ := auth
  unfold AuthSettings.keys at only
  cases rsa <;> cases token <;> simp at only <;> obtain ⟨_, rfl⟩ := only <;> rfl

/-! ## Settings of a command line -/

namespace CommandLine

/-- The keys that a command line names, with their kinds. -/
def keys (said : List Saying) : List (KeyKind × String) :=
  (values .rsaPublicKey said).map (.rsaPublicKey, ·) ++
    (values .tokenFile said).map (.sharedSecret, ·)

/-- The keys that count: those of the command line if it names any, else those of the file. -/
def keysOver (said : List Saying) (file : Settings) : List (KeyKind × String) :=
  if keys said = [] then file.auth.keys else keys said

/-- The tables that are open: those of the command line if it names any, else those of the
file. -/
def tablesOver (said : List Saying) (file : Settings) : List String :=
  if values .allowTable said = [] then file.security.tables else values .allowTable said

/-- The source name that counts: that of the command line, else that of the environment, else
that of the file. -/
def dsnOver (said : List Saying) (dsn : Option String) (file : Settings) : String :=
  ((values .dsn said).head? <|> dsn).getD file.database.dsn

/-- The command line or the file says that no tokens are asked for. -/
def Unlocks (said : List Saying) (file : Settings) : Prop :=
  .turnsOn .authDisabled ∈ said ∨ file.auth.disabled = true

variable {flags : Flags} {said : List Saying}

theorem keys_applyTo (tell : flags.Tell said) (dsn : Option String) (file : Settings) :
    ((flags.withDsn dsn).applyTo file).auth.keys = keysOver said file := by
  have hkeys : keys said = flags.rsaPublicKey.toList.map (.rsaPublicKey, ·) ++
      flags.tokenFile.toList.map (.sharedSecret, ·) := by
    unfold keys
    rw [tell.rsaPublicKey, tell.tokenFile]
  unfold keysOver
  rw [hkeys]
  cases hrsa : flags.rsaPublicKey <;> cases htoken : flags.tokenFile <;>
    simp [Flags.applyTo, Flags.withDsn, Flags.keyFiles, AuthSettings.keys, hrsa, htoken]

theorem tables_applyTo (tell : flags.Tell said) (dsn : Option String) (file : Settings) :
    ((flags.withDsn dsn).applyTo file).security.tables = tablesOver said file := by
  unfold tablesOver Flags.applyTo Flags.withDsn
  rw [tell.allowTables]
  simp only
  split <;> rfl

theorem dsn_applyTo (tell : flags.Tell said) (dsn : Option String) (file : Settings) :
    ((flags.withDsn dsn).applyTo file).database.dsn = dsnOver said dsn file := by
  unfold dsnOver Flags.applyTo Flags.withDsn
  rw [tell.dsn, Option.head?_toList]

theorem disabled_applyTo (tell : flags.Tell said) (dsn : Option String) (file : Settings) :
    ((flags.withDsn dsn).applyTo file).auth.disabled = true ↔ Unlocks said file := by
  unfold Unlocks Flags.applyTo Flags.withDsn
  rw [tell.authDisabled]
  simp

end CommandLine

/-! ## Starts -/

namespace Http

/-- A start with any way to open a database. -/
def Server.startWith (connect : DatabaseSettings → Disk → Except Fault (Database × Disk))
    (settings : Settings) (disk : Disk) : Except Fault (Server × Disk) := do
  settings.validate
  let (database, disk) ← connect settings.database disk
  let authenticator ← settings.auth.authenticator
  let server : Server := {
    gateway := { access := settings.security, authenticator }
    cors := .ofOrigins settings.http.corsOrigins
    database }
  return (server, disk)

theorem Server.start_eq_startWith : start = startWith DatabaseSettings.connect :=
  rfl

/-- A server that starts serves a database with a name, opens the tables of the settings, and has
their authenticator. -/
theorem Server.of_start {settings : Settings} {disk after : Disk} {server : Server}
    (h : start settings disk = .ok (server, after)) :
    settings.database.dsn ≠ "" ∧ server.gateway.access = settings.security ∧
      settings.auth.authenticator = .ok server.gateway.authenticator := by
  obtain ⟨_, hvalid, h⟩ := bind_eq_ok.mp h
  obtain ⟨⟨database, disk'⟩, _, h⟩ := bind_eq_ok.mp h
  obtain ⟨authenticator, hauthenticator, h⟩ := bind_eq_ok.mp h
  cases pure_eq_ok.mp h
  refine ⟨fun hempty => ?_, rfl, hauthenticator⟩
  unfold Settings.validate at hvalid
  rw [if_pos hempty] at hvalid
  cases hvalid

/-- Settings that do not go together are refused with words for the settings, whatever way there
is to open a database. -/
theorem Server.refused_of_keys {settings : Settings} (asks : settings.auth.disabled = false)
    (keys : settings.auth.keys.length ≠ 1) (disk : Disk) :
    ∃ text, ∀ connect, startWith connect settings disk = .error (.config text) := by
  obtain ⟨text, hrefused⟩ := AuthSettings.authenticator_refused asks keys
  have hvalid : ∃ text, settings.validate = .error (.config text) := by
    unfold Settings.validate
    split
    · exact ⟨_, rfl⟩
    · exact ⟨text, map_eq_error.mpr hrefused⟩
  obtain ⟨text, hvalid⟩ := hvalid
  exact ⟨text, fun connect => bind_eq_error.mpr (.inl hvalid)⟩

/-- A server lets in whom the command line and the file say. It opens the tables that count. Where
it is told to ask for no tokens it asks for none, and otherwise it asks for those of the only key
that counts, whose file is the one that is read. -/
structure Server.LetsInAsSaid (server : Server) (settings : Settings)
    (said : List CommandLine.Saying) (file : Settings) : Prop where
  tables : server.gateway.access.tables = CommandLine.tablesOver said file
  tokens : CommandLine.Unlocks said file ∧ server.gateway.authenticator = .disabled ∨
    ¬ CommandLine.Unlocks said file ∧ ∃ kind path,
      CommandLine.keysOver said file = [(kind, path)] ∧
      server.gateway.authenticator = .enabled kind path ∧
      ∀ disk, settings.auth.keyFile disk = (disk.file path).mapError PathFault.message

/-- A start does as the command line, the environment and the file say. A server that starts has
a database with a name. Where tokens are asked for and no key counts, or more than one, the start
is refused with words for the settings before a database is opened: whatever way there is to open
one makes no difference. -/
structure Server.StartsAsSaid (settings : Settings) (said : List CommandLine.Saying)
    (dsn : Option String) (file : Settings) (disk : Disk) : Prop where
  source : settings.database.dsn = CommandLine.dsnOver said dsn file
  serves : ∀ server after, start settings disk = .ok (server, after) →
    settings.database.dsn ≠ "" ∧ server.LetsInAsSaid settings said file
  refuses : ¬ CommandLine.Unlocks said file → (CommandLine.keysOver said file).length ≠ 1 →
    ∃ text, start settings disk = .error (.config text) ∧
      ∀ connect, startWith connect settings disk = .error (.config text)

theorem Server.startsAsSaid {flags : CommandLine.Flags} {said : List CommandLine.Saying}
    (tell : flags.Tell said) (dsn : Option String) (file : Settings) (disk : Disk) :
    StartsAsSaid ((flags.withDsn dsn).applyTo file) said dsn file disk := by
  have hkeys := CommandLine.keys_applyTo tell dsn file
  have hdisabled := CommandLine.disabled_applyTo tell dsn file
  refine ⟨CommandLine.dsn_applyTo tell dsn file, fun server after hstart => ?_,
    fun hlocked hcount => ?_⟩
  · obtain ⟨hname, haccess, hauthenticator⟩ := of_start hstart
    refine ⟨hname, by rw [haccess, CommandLine.tables_applyTo tell], ?_⟩
    rcases AuthSettings.authenticator_eq_ok.mp hauthenticator with
      ⟨hopen, heq⟩ | ⟨hclosed, kind, path, hone, heq⟩
    · exact .inl ⟨hdisabled.mp hopen, heq⟩
    · have hlocked := mt hdisabled.mpr (Bool.eq_false_iff.mp hclosed)
      exact .inr ⟨hlocked, kind, path, hkeys ▸ hone, heq, AuthSettings.keyFile_eq hone⟩
  · have hasks := Bool.eq_false_iff.mpr (mt hdisabled.mp hlocked)
    obtain ⟨text, hrefused⟩ := refused_of_keys hasks (by rwa [hkeys]) disk
    refine ⟨text, ?_, hrefused⟩
    rw [start_eq_startWith]
    exact hrefused DatabaseSettings.connect

/-- Nobody is let in by mistake. A command line that is accepted says something, flag by flag, and
its file of settings says the rest. A server then starts only with a database that has a name. Its
tables are exactly those of the command line, or those of the file where the command line names
none. It asks for no tokens only where the command line or the file says so, and otherwise for
those of one key, which the command line names, or else the file. -/
theorem Server.a_start_lets_nobody_in_by_mistake (arguments : List String) (dsn : Option String)
    (disk : Disk) (settings : Settings)
    (accepted : Settings.ofArguments arguments dsn disk = .ok settings) :
    ∃ spoken said file,
      (arguments = CommandLine.serveCommand :: spoken ∨
        arguments = CommandLine.serveCommand :: (spoken ++ [CommandLine.separator])) ∧
      CommandLine.Reads spoken said none ∧
      Settings.ComeFrom file disk (CommandLine.values .config said).head? ∧
      StartsAsSaid settings said dsn file disk := by
  obtain ⟨flags, hread, hsettings⟩ := bind_eq_ok.mp accepted
  obtain ⟨file, hfile, hsettings⟩ := bind_eq_ok.mp hsettings
  cases pure_eq_ok.mp hsettings
  obtain ⟨spoken, said, given, hspoken, hreads, htell, rfl, _⟩ :=
    CommandLine.tell_read (mapError_eq_ok.mp hread)
  refine ⟨spoken, said, file, hspoken, hreads, ?_, startsAsSaid htell dsn file disk⟩
  rw [htell.config, Option.head?_toList]
  exact Settings.comeFrom_of_file hfile

/-- A key of the command line takes the place of two keys in the file, and a table that of
another. -/
theorem Server.a_key_takes_the_place_of_two :
    let text := "auth.rsa_public_key_file=\"a\"\nauth.token_file=\"b\"\n" ++
      "security.allowed_tables=[\"x\"]"
    let dsn := some "sqlite::memory:"
    let disk : Disk :=
      { here := []
        entry? := fun place =>
          if place = [] then some .folder
          else if place = ["c.toml"] then some (.file ⟨Text.bytes text, 0⟩) else none }
    let arguments :=
      ["serve", "-c", "c.toml", "--auth-token-file=k", "--security-allow-table", "pets", "--"]
    let settings : Settings :=
      { database := { dsn := "sqlite::memory:" }
        auth := { tokenFile := some "k" }
        security := ⟨["pets"]⟩ }
    Settings.ofArguments arguments dsn disk = .ok settings ∧
      (start settings disk).toOption.map (fun started =>
          (started.1.gateway.access, started.1.gateway.authenticator)) =
        some (⟨["pets"]⟩, .enabled .sharedSecret "k") ∧
      ∃ spoken said file,
        (arguments = CommandLine.serveCommand :: spoken ∨
          arguments = CommandLine.serveCommand :: (spoken ++ [CommandLine.separator])) ∧
        CommandLine.Reads spoken said none ∧
        Settings.ComeFrom file disk (CommandLine.values .config said).head? ∧
        StartsAsSaid settings said dsn file disk := by
  intro text dsn disk arguments settings
  have accepted : Settings.ofArguments arguments dsn disk = .ok settings := by decide +kernel
  have starts : (start settings disk).toOption.map (fun started =>
        (started.1.gateway.access, started.1.gateway.authenticator)) =
      some (⟨["pets"]⟩, .enabled .sharedSecret "k") := by decide +kernel
  exact ⟨accepted, starts, a_start_lets_nobody_in_by_mistake arguments dsn disk settings accepted⟩

end Http

end TableGateway
