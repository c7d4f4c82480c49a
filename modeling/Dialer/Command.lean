import Dialer.Resolver

/-!
# The command

Resolves one reference, reports how that went, and ends with an exit code: 0 for a connection,
1 for a failure to connect, 2 for a reference that names no endpoint.
-/

namespace Dialer.Command

open Dialer.Action

/-- The reference that is resolved when none is given. -/
def defaultReference : Text := "wss://echo.websocket.org/".toText

/-- The bound on the time to connect. -/
def settings : ConnectSettings := { timeout := some (.limit (.whole 10)) }

/-- The factories of the command. -/
def overrides : Overrides where
  plainFactory := some ⟨.made 0, .plain settings⟩
  tlsFactory := some ⟨.made 1, .tls settings (.onDemand (.own 1))⟩

/-- The environment in which the command runs: all records go to the error stream. -/
def environment (network : Network) (platform : TlsPlatform) : Environment :=
  { network, platform, logging := ⟨0, Level.debug.number, [.labelled]⟩ }

/-- Reports on the error stream. -/
def say (level : Level) (line : Text) : Action Unit := report level .command line

/-- Reports what was reached. -/
def describe (t : Target) : Action Unit := do
  say .info ("Connected to " ++ (Atom.tuple t.socket.raw.peer))
  say .info ("Secure: " ++ (if t.secure then "True" else "False"))
  if t.socket matches .tls _ then say .info "TLS version: TLSv1.3"
  say .info ("Host header: " ++ t.hostHeader)
  say .info ("Request-URI: " ++ t.requestTarget)
  let userInfo := t.userInfo.getD []
  if !userInfo.isEmpty then say .info ("User info: " ++ userInfo)

/-- Runs the command on its arguments, of which only the first counts. -/
def run (encode : HostEncoding) (arguments : List Text) : Action Int := do
  match ← (resolve encode overrides (.text (arguments.head?.getD defaultReference))).attempt with
  | .ok target =>
    target.within (describe target)
    return 0
  | .error e =>
    if e.isLocation then
      say .error ("Invalid endpoint: " ++ e.message)
      return 2
    else if e.isOs then
      say .error ("Could not connect: " ++ e.message)
      return 1
    else fail e

end Dialer.Command
