import TableGateway.Http.Acceptance
import TableGateway.Http.Cors
import TableGateway.Http.Gateway
import TableGateway.Http.Reception

-- The gateway behind its policy for other origins: all that a connection sees.

namespace TableGateway.Http

/-- A gateway with its policy for other origins and the database behind it. -/
structure Server where
  gateway : Gateway
  cors : CorsPolicy
  database : Database := .empty

namespace Server

/-- Answers a message that makes sense. Questions of browsers never reach the
gateway. -/
def serve (server : Server) (around : Surroundings) (message : Message) : Response × Server :=
  match CorsPolicy.requestedMethod? message with
  | some method => (server.cors.preflight message method, server)
  | none =>
    let answer := server.gateway.answer around message
    (server.cors.permitted message answer.response, { server with gateway := answer.gateway })

/-- Answers a message. One that makes no sense, and one whose client takes no form
of a response, goes no further. -/
def answer (server : Server) (around : Surroundings) (message : Message) : Response × Server :=
  let message := message.received
  match message.refusal? with
  | some status => ({ status }, server)
  | none =>
    if message.isServable then server.serve around message else (.notAcceptable, server)

/-- The database of a server, as a message finds it. -/
def backend (server : Server) (message : Message) : Backend :=
  match Route.ofMessage? message with
  | some (.table _ table) => server.database.backend table
  | _ => server.database.backend ""

/-- Answers messages one after another. -/
def answerAll (server : Server) (keyFile : Except String KeyFile) (now : Nat) :
    List Message → List Response
  | [] => []
  | message :: rest =>
    let around : Surroundings := { keyFile, now, db := server.backend message }
    let (response, server) := server.answer around message
    response :: server.answerAll keyFile now rest

end Server

end TableGateway.Http
