import TableGateway.Access
import TableGateway.Auth.Authenticator
import TableGateway.Http.Endpoint
import TableGateway.Http.Route

-- The gateway: who and what it lets in, and how it answers.

namespace TableGateway.Http

/-! ## State -/

/-- A gateway: the open tables, who may make requests, and what is kept of the
key file. -/
structure Gateway where
  access : AllowList
  authenticator : Authenticator
  cache : KeyFile.Cache := none

/-- What a gateway stands in: the key file or why it cannot be read, the moment in
seconds, the database, and the calls that it saw before. -/
structure Surroundings where
  keyFile : Except String KeyFile := .error KeyFile.missingText
  now : Nat
  db : Backend
  past : List Call := []

/-- An answer: the response, the calls that were made for it, and the gateway
afterwards. -/
structure Answer where
  response : Response
  calls : List Call
  gateway : Gateway

namespace Gateway

/-! ## Letting requests in -/

/-- The header with the token. -/
def authorizationName : String := "authorization"

/-- Lets a request on a table in. The table is checked first, and for a table
that is not open nothing else is looked at. -/
def guard (gateway : Gateway) (around : Surroundings) (message : Message) (table : String) :
    Except Fault Unit × Gateway :=
  match gateway.access.check table with
  | .error e => (.error e, gateway)
  | .ok () =>
    let (verdict, cache) := gateway.authenticator.authenticate around.keyFile around.now
      gateway.cache (message.plainHeader? authorizationName)
    (verdict, { gateway with cache })

/-! ## Answering -/

/-- The response of an outcome. A fault is reported. -/
def responseOf (result : Except Fault Response) : Response :=
  match result with
  | .ok response => response
  | .error fault => .ofFault fault

/-- Answers a request on a table with a body. -/
def answerTable (gateway : Gateway) (around : Surroundings) (message : Message)
    (body : List UInt8) (kind : StatementKind) (table : String) : Answer :=
  match gateway.guard around message table with
  | (.error e, after) => ⟨.ofFault e, [], after⟩
  | (.ok (), after) =>
    let outcome := onTable around.db around.past (message.request body) kind table
    ⟨responseOf outcome.result, outcome.calls, after⟩

/-- Answers a request. A body that cannot be read is refused before the gateway asks
who sent it. -/
def answer (gateway : Gateway) (around : Surroundings) (message : Message) : Answer :=
  match Route.ofMessage? message with
  | none => ⟨.notFound, [], gateway⟩
  | some .health => ⟨healthResponse, [], gateway⟩
  | some (.table kind table) =>
    match bodyFor kind message with
    | .error fault => ⟨fault.response, [], gateway⟩
    | .ok body => gateway.answerTable around message body kind table

end Gateway

end TableGateway.Http
