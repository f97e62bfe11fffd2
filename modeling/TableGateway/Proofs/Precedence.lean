import TableGateway.Proofs.Admission
import TableGateway.Proofs.Starting

-- The laws of precedence. What the command line gives takes the place of what the file of settings
-- says. That tokens are not asked for at all is no value that could be replaced: it is said by
-- either of them, and then a key that is given is not looked at.

namespace TableGateway

open Fallible

/-! ## Settings -/

namespace CommandLine

/-- The value that counts: that of the command line, else another one. -/
def valueOver (flag : ValueFlag) (said : List Saying) (usual : String) : String :=
  (values flag said).head?.getD usual

/-- What the command line says comes before what the file says. What no flag gives is as in the
file, and two things that can only be turned on are on where either of them says so. -/
structure ComesFirst (said : List Saying) (dsn : Option String) (file settings : Settings) :
    Prop where
  source : settings.database.dsn = dsnOver said dsn file
  host : settings.http.host = valueOver .host said file.http.host
  port : .ok settings.http.port =
    ((values .port said).head?.map portOf).getD (.ok file.http.port)
  socketPath : settings.http.socketPath =
    ((values .socketPath said).head? <|> file.http.socketPath)
  tables : settings.security.tables = tablesOver said file
  keys : settings.auth.keys = keysOver said file
  disabled : settings.auth.disabled = true ↔ Unlocks said file
  level : settings.log.level = valueOver .logLevel said file.log.level
  json : settings.log.json = true ↔ .turnsOn .logJson ∈ said ∨ file.log.json = true
  workers : settings.http.workers = file.http.workers
  origins : settings.http.corsOrigins = file.http.corsOrigins
  connections : settings.database.maxConnections = file.database.maxConnections

variable {flags : Flags} {said : List Saying}

theorem comesFirst_applyTo (tell : flags.Tell said) (dsn : Option String) (file : Settings) :
    ComesFirst said dsn file ((flags.withDsn dsn).applyTo file) where
  source := dsn_applyTo tell dsn file
  host := by
    rw [valueOver, tell.host, Option.head?_toList]
    rfl
  port := by
    rw [← List.head?_map, tell.port]
    unfold Flags.applyTo Flags.withDsn
    cases flags.port <;> rfl
  socketPath := by
    rw [tell.socketPath, Option.head?_toList]
    rfl
  tables := tables_applyTo tell dsn file
  keys := keys_applyTo tell dsn file
  disabled := disabled_applyTo tell dsn file
  level := by
    rw [valueOver, tell.logLevel, Option.head?_toList]
    rfl
  json := by
    unfold Flags.applyTo Flags.withDsn
    rw [tell.logJson]
    simp
  workers := rfl
  origins := rfl
  connections := rfl

/-- A key that a command line gives is the only one where two kinds of key are refused. -/
theorem keys_eq_singleton {kind : KeyKind} {path : String} (tell : flags.Tell said)
    (one : flags.rsaPublicKey = none ∨ flags.tokenFile = none) (given : (kind, path) ∈ keys said) :
    keys said = [(kind, path)] := by
  unfold keys at given ⊢
  rw [tell.rsaPublicKey, tell.tokenFile] at given ⊢
  rcases one with hnone | hnone
  · rw [hnone] at given ⊢
    cases htoken : flags.tokenFile with
    | none => simp [htoken] at given
    | some token => simpa [htoken, eq_comm] using given
  · rw [hnone] at given ⊢
    cases hrsa : flags.rsaPublicKey with
    | none => simp [hrsa] at given
    | some key => simpa [hrsa, eq_comm] using given

end CommandLine

/-- A disk with nothing but a file of settings, in the folder of the program. -/
def Disk.ofSettings (text : String) : Disk where
  here := []
  entry? := fun place =>
    if place = [] then some .folder
    else if place = ["c.toml"] then some (.file ⟨Text.bytes text, 0⟩) else none

namespace Http

/-! ## Requests without a token -/

namespace Gateway

/-- A message asks for something of an open table, with a body that can be read, and names no
token. -/
structure ComesUnnamed (gateway : Gateway) (message : Message) : Prop where
  asks : ∃ kind table body, Route.ofMessage? message = some (.table kind table) ∧
    table ∈ gateway.access.tables ∧ bodyFor kind message = .ok body
  unnamed : (message.plainHeader? authorizationName).filter (· ≠ "") = none

variable {gateway : Gateway} {message : Message} {kind : KeyKind} {path : String}

/-- Who names no token is not let in, and the key file is not read. -/
theorem answer_of_unnamed (enabled : gateway.authenticator = .enabled kind path)
    (comes : gateway.ComesUnnamed message) (around : Surroundings) :
    gateway.answer around message =
      ⟨.ofFault (.unauthorized "missing auth header"), [], gateway⟩ := by
  obtain ⟨⟨statement, table, body, hroute, hopen, hbody⟩, hunnamed⟩ := comes
  have htoken : Authenticator.tokenOf (message.plainHeader? authorizationName) =
      .error (.unauthorized "missing auth header") := by
    unfold Authenticator.tokenOf
    rw [hunnamed]
  have hverdict : gateway.authenticator.authenticate around.keyFile around.now gateway.cache
      (message.plainHeader? authorizationName) =
        (.error (.unauthorized "missing auth header"), gateway.cache) := by
    rw [enabled]
    unfold Authenticator.authenticate
    rw [htoken]
  have hkept : gateway.cacheAfter around message = gateway.cache := congrArg Prod.snd hverdict
  rw [answer_of_readable hroute hbody,
    answerTable_of_refused hopen (congrArg Prod.fst hverdict), hkept]

/-- A gateway keeps its tables and its authenticator, whatever it answers. -/
theorem answer_keeps (gateway : Gateway) (around : Surroundings) (message : Message) :
    (gateway.answer around message).gateway.access = gateway.access ∧
      (gateway.answer around message).gateway.authenticator = gateway.authenticator := by
  cases hroute : Route.ofMessage? message with
  | none => simp [answer, hroute]
  | some route =>
    cases route with
    | health => simp [answer, hroute]
    | table kind table =>
      cases hbody : bodyFor kind message with
      | error fault => simp [answer_of_unreadable hroute hbody]
      | ok body =>
        rw [answer_of_readable hroute hbody]
        by_cases hopen : table ∈ gateway.access.tables
        · unfold answerTable
          rw [guard_of_open hopen]
          cases gateway.verdict around message <;> exact ⟨rfl, rfl⟩
        · rw [answerTable_of_closed hopen]
          exact ⟨rfl, rfl⟩

end Gateway

namespace Server

/-- A message that is served, and comes without a token. -/
structure ComesUnnamed (server : Server) (message : Message) : Prop where
  sensible : message.received.refusal? = none
  servable : message.received.isServable = true
  request : CorsPolicy.requestedMethod? message.received = none
  unnamed : server.gateway.ComesUnnamed message.received

variable {server : Server} {message : Message} {kind : KeyKind} {path : String}

theorem answer_of_unnamed (enabled : server.gateway.authenticator = .enabled kind path)
    (comes : server.ComesUnnamed message) (around : Surroundings) :
    (server.answer around message).1.status = 401 := by
  unfold answer
  simp only [comes.sensible, comes.servable, if_true]
  unfold serve
  simp only [comes.request, Gateway.answer_of_unnamed enabled comes.unnamed]
  rfl

/-- A server keeps its tables and its authenticator from one message to the next. -/
theorem answer_keeps (server : Server) (around : Surroundings) (message : Message) :
    (server.answer around message).2.gateway.access = server.gateway.access ∧
      (server.answer around message).2.gateway.authenticator = server.gateway.authenticator := by
  unfold answer
  simp only
  cases message.received.refusal? with
  | some status => exact ⟨rfl, rfl⟩
  | none =>
    by_cases hservable : message.received.isServable
    · simp only [hservable, if_true]
      unfold serve
      cases CorsPolicy.requestedMethod? message.received with
      | some method => exact ⟨rfl, rfl⟩
      | none => exact Gateway.answer_keeps server.gateway around message.received
    · simp only [hservable]
      exact ⟨rfl, rfl⟩

/-- Whatever a server answered before, who comes without a token is not let in. -/
theorem answerAll_of_unnamed (enabled : server.gateway.authenticator = .enabled kind path)
    (keyFile : Except String KeyFile) (now : Nat) {messages : List Message} {index : Nat}
    (hmessage : messages[index]? = some message) (comes : server.ComesUnnamed message) :
    ∃ response, (server.answerAll keyFile now messages)[index]? = some response ∧
      response.status = 401 := by
  induction messages generalizing server index with
  | nil => cases hmessage
  | cons first rest ih =>
    cases index with
    | zero =>
      obtain rfl : first = message := Option.some.inj hmessage
      exact ⟨_, rfl, answer_of_unnamed enabled comes _⟩
    | succ index =>
      obtain ⟨haccess, hauthenticator⟩ :=
        answer_keeps server { keyFile, now, db := server.backend first } first
      refine ih (hauthenticator.trans enabled) hmessage
        ⟨comes.sensible, comes.servable, comes.request, ?_, comes.unnamed.unnamed⟩
      rw [haccess]
      exact comes.unnamed.asks

/-! ## Starts with a key -/

/-- A server asks for tokens of a key file: its authenticator is enabled, the file that is read is
that of the key, and every request on an open table that comes without a token is refused, whatever
was answered before. -/
structure AsksFor (server : Server) (settings : Settings) (kind : KeyKind) (path : String) :
    Prop where
  authenticator : server.gateway.authenticator = .enabled kind path
  file (disk : Disk) : settings.auth.keyFile disk = (disk.file path).mapError PathFault.message
  refuses (keyFile : Except String KeyFile) (now : Nat) (messages : List Message) (index : Nat)
    (message : Message) : messages[index]? = some message → server.ComesUnnamed message →
      ∃ response, (server.answerAll keyFile now messages)[index]? = some response ∧
        response.status = 401

/-- A server that starts with one key asks for its tokens, but for settings that turn this off. -/
theorem asks_of_start {settings : Settings} {disk after : Disk}
    (only : settings.auth.keys = [(kind, path)])
    (h : start settings disk = .ok (server, after)) :
    settings.auth.disabled = false ∧ server.AsksFor settings kind path ∨
      settings.auth.disabled = true ∧ server.gateway.authenticator = .disabled := by
  obtain ⟨_, _, hauthenticator⟩ := of_start h
  rcases AuthSettings.authenticator_eq_ok.mp hauthenticator with
    ⟨hoff, heq⟩ | ⟨hon, kind', path', honly, heq⟩
  · exact .inr ⟨hoff, heq⟩
  · rw [only] at honly
    cases honly
    refine .inl ⟨hon, heq, AuthSettings.keyFile_eq only, ?_⟩
    intro keyFile now messages index message hmessage comes
    exact answerAll_of_unnamed heq keyFile now hmessage comes

/-- A key on the command line counts where the file asks for tokens. A command line that is
accepted comes before its file in all that has a value. A server that starts with a key of the
command line, which does not turn tokens off, asks for tokens of this very key, unless the file
turns them off: then it asks for none. -/
theorem a_key_option_counts_where_the_file_asks_for_tokens (arguments : List String)
    (dsn : Option String) (disk : Disk) (settings : Settings)
    (accepted : Settings.ofArguments arguments dsn disk = .ok settings) :
    ∃ spoken said file,
      (arguments = CommandLine.serveCommand :: spoken ∨
        arguments = CommandLine.serveCommand :: (spoken ++ [CommandLine.separator])) ∧
      CommandLine.Reads spoken said none ∧
      Settings.ofFile disk (CommandLine.values .config said).head? = .ok file ∧
      file.ComeFrom disk (CommandLine.values .config said).head? ∧
      CommandLine.ComesFirst said dsn file settings ∧
      ∀ kind path, (kind, path) ∈ CommandLine.keys said → .turnsOn .authDisabled ∉ said →
        settings.auth.keys = [(kind, path)] ∧
        ∀ server after, start settings disk = .ok (server, after) →
          file.auth.disabled = false ∧ server.AsksFor settings kind path ∨
            file.auth.disabled = true ∧ server.gateway.authenticator = .disabled := by
  obtain ⟨flags, hflags, hsettings⟩ := bind_eq_ok.mp accepted
  obtain ⟨file, hfile, hsettings⟩ := bind_eq_ok.mp hsettings
  cases pure_eq_ok.mp hsettings
  obtain ⟨spoken, said, given, hspoken, hreads, htell, rfl, hone⟩ :=
    CommandLine.tell_read (mapError_eq_ok.mp hflags)
  have hfirst := CommandLine.comesFirst_applyTo htell dsn file
  have hread : Settings.ofFile disk (CommandLine.values .config said).head? = .ok file := by
    rw [htell.config, Option.head?_toList]
    exact hfile
  refine ⟨spoken, said, file, hspoken, hreads, hread, Settings.comeFrom_of_file hread, hfirst, ?_⟩
  intro kind path hgiven hasks
  have hkeys := CommandLine.keys_eq_singleton htell hone hgiven
  have honly : ((given.withDsn dsn).applyTo file).auth.keys = [(kind, path)] := by
    rw [hfirst.keys, CommandLine.keysOver, hkeys, if_neg (List.cons_ne_nil _ _)]
  have hunlocks : CommandLine.Unlocks said file ↔ file.auth.disabled = true :=
    or_iff_right hasks
  refine ⟨honly, fun server after hstart => ?_⟩
  rcases asks_of_start honly hstart with ⟨hon, hserver⟩ | ⟨hoff, hserver⟩
  · refine .inl ⟨?_, hserver⟩
    have hlocked := mt hfirst.disabled.mpr (Bool.eq_false_iff.mp hon)
    exact Bool.eq_false_iff.mpr (mt hunlocks.mpr hlocked)
  · exact .inr ⟨hunlocks.mp (hfirst.disabled.mp hoff), hserver⟩

/-- A public key on the command line takes the place of a secret in the file, and who comes without
a token is not let in. -/
theorem a_public_key_takes_the_place_of_a_secret :
    let disk := Disk.ofSettings "auth.token_file=\"b\"\nsecurity.allowed_tables=[\"pets\"]"
    let dsn := some "sqlite::memory:"
    let arguments := ["serve", "--config=c.toml", "--auth-rsa-public-key", "k"]
    let settings : Settings :=
      { database := { dsn := "sqlite::memory:" }
        auth := { rsaPublicKeyFile := some "k" }
        security := ⟨["pets"]⟩ }
    let around : Surroundings := { now := 0, db := .without "pets" }
    Settings.ofArguments arguments dsn disk = .ok settings ∧
      (start settings disk).toOption.map (fun started => (started.1.gateway.authenticator,
          (started.1.answer around { method := "GET", target := "/pets" }).1.status)) =
        some (.enabled .rsaPublicKey "k", 401) ∧
      ∃ spoken said file,
        (arguments = CommandLine.serveCommand :: spoken ∨
          arguments = CommandLine.serveCommand :: (spoken ++ [CommandLine.separator])) ∧
        CommandLine.Reads spoken said none ∧
        Settings.ofFile disk (CommandLine.values .config said).head? = .ok file ∧
        file.ComeFrom disk (CommandLine.values .config said).head? ∧
        CommandLine.ComesFirst said dsn file settings ∧
        ∀ kind path, (kind, path) ∈ CommandLine.keys said → .turnsOn .authDisabled ∉ said →
          settings.auth.keys = [(kind, path)] ∧
          ∀ server after, start settings disk = .ok (server, after) →
            file.auth.disabled = false ∧ server.AsksFor settings kind path ∨
              file.auth.disabled = true ∧ server.gateway.authenticator = .disabled := by
  intro disk dsn arguments settings around
  have accepted : Settings.ofArguments arguments dsn disk = .ok settings := by decide +kernel
  have starts :
      (start settings disk).toOption.map (fun started => (started.1.gateway.authenticator,
          (started.1.answer around { method := "GET", target := "/pets" }).1.status)) =
        some (.enabled .rsaPublicKey "k", 401) := by decide +kernel
  exact ⟨accepted, starts,
    a_key_option_counts_where_the_file_asks_for_tokens arguments dsn disk settings accepted⟩

/-- A file that turns tokens off does so for a key of the command line, too. So not every server
that starts with such a key asks for its tokens. -/
theorem a_file_turns_off_the_key_of_a_command_line :
    ¬ ∀ (spoken : List String) (said : List CommandLine.Saying) (dsn : Option String) (disk : Disk)
      (settings : Settings) (kind : KeyKind) (path : String) (server : Server) (after : Disk),
      Settings.ofArguments (CommandLine.serveCommand :: spoken) dsn disk = .ok settings →
      CommandLine.Reads spoken said none → (kind, path) ∈ CommandLine.keys said →
      .turnsOn .authDisabled ∉ said → start settings disk = .ok (server, after) →
      server.gateway.authenticator = .enabled kind path := by
  intro h
  let disk := Disk.ofSettings "auth.disabled=true"
  let settings : Settings :=
    { database := { dsn := "sqlite::memory:" }
      auth := { tokenFile := some "k", disabled := true } }
  have accepted : Settings.ofArguments ["serve", "--config=c.toml", "--auth-token-file=k"]
      (some "sqlite::memory:") disk = .ok settings := by decide +kernel
  have reads : CommandLine.Reads ["--config=c.toml", "--auth-token-file=k"]
      [.gives .config "c.toml", .gives .tokenFile "k"] none :=
    .attached "auth-token-file" "k" .tokenFile (by decide)
      (.attached "config" "c.toml" .config (by decide) .nothing)
  have starts :
      (start settings disk).toOption.map (fun started => started.1.gateway.authenticator) =
        some .disabled := by decide +kernel
  cases hstart : start settings disk with
  | error fault =>
    rw [hstart] at starts
    cases starts
  | ok started =>
    obtain ⟨server, after⟩ := started
    have hasks := h _ _ _ _ _ .sharedSecret "k" server after accepted reads (by decide) (by decide)
      hstart
    rw [hstart] at starts
    cases hasks.symm.trans (Option.some.inj starts)

end Server

end Http

end TableGateway
