import Dialer.Endpoint
import Dialer.Factory

/-!
# Resolving references

From a reference to a connected socket and the texts of the opening handshake.

* `Overrides.select` chooses the factory: an override if there is one for the kind of connection,
  else the process-wide factory.
* `resolve` checks the reference, chooses the factory and dials once. The `Host` header is written
  when there is a socket (`Endpoint.handOver`).
* `Target.close` and `Target.within` end the use of a target.
-/

namespace Dialer

open Dialer.Action

/-- What a caller chose in place of the process-wide factories. A TLS context comes before a
factory for TLS connections. -/
structure Overrides where
  plainFactory : Option Factory := none
  tlsFactory : Option Factory := none
  context : Option Context := none

/-- A connected socket and the texts for the opening handshake. -/
structure Target where
  socket : Socket
  hostHeader : Text
  requestTarget : Text
  userInfo : Option Text := none
  secure : Bool := false
  host : Text := []
  port : Int := -1

/-- Closes the socket of a target. -/
def Target.close (t : Target) : Action Unit := t.socket.close

/-- Runs an action on a target and closes the target afterwards. -/
def Target.within {α : Type} (t : Target) (use : Action α) : Action α := use.ensuring t.close

/-- The factory for TLS or plain connections. -/
def Overrides.select (o : Overrides) (secure : Bool) : Action Factory :=
  if secure then
    match o.context, o.tlsFactory with
    | some context, _ => pure (Factory.ofContext context .derived)
    | none, some factory => pure factory
    | none, none => defaultFactory true
  else
    match o.plainFactory with
    | some factory => pure factory
    | none => defaultFactory false

/-- The report of a connection about to be opened. -/
def startMessage (e : Endpoint) : Text :=
  "Starting new " ++ (if e.secure then "secure" else "plain") ++ " connection: "
    ++ e.host ++ ":" ++ (Text.numeral e.port)

/-- Reports a connection about to be opened. A record that cannot be written is lost. -/
def reportStart (e : Endpoint) : Action Unit :=
  if canWritePort (some e.port) then report .debug .resolver (startMessage e) else pure ()

/-- What is handed out for an endpoint that a socket is connected to. -/
def Endpoint.handOver (e : Endpoint) (socket : Socket) : Except Failure Target := do
  let hostHeader ← writeHostHeader e.host (some e.port)
  return {
    socket
    hostHeader
    requestTarget := e.requestTarget
    userInfo := e.userInfo
    secure := e.secure
    host := e.host
    port := e.port }

/-- Dials an endpoint. A socket that cannot be handed over is left as it is. -/
def dial (o : Overrides) (e : Endpoint) : Action Target := do
  let factory ← o.select e.secure
  reportStart e
  let socket ← factory.createSocket e.host e.port
  ofExcept (e.handOver socket)

/-- Resolves a reference. Nothing is done before the whole reference has been checked. -/
def resolve (encode : HostEncoding) (o : Overrides) (r : Reference) : Action Target := do
  dial o (← ofExcept (Endpoint.ofReference encode r))

end Dialer
