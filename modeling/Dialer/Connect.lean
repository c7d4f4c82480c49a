import Dialer.Operation

/-!
# Connecting

* `connect` opens a socket to a name and a port. It tries the addresses that the lookup finds in
  turn, and ends with the first that can be connected or with the failure of the last.
-/

namespace Dialer

open Dialer.Action

/-- How sockets are set up before they are connected. -/
structure ConnectSettings where
  /-- How long a socket may wait; none leaves it at the platform's default. -/
  timeout : Option Timeout := none
  /-- The address of this host to bind to, unless it is empty. -/
  source : Address := []
  options : List SocketOption := []
  deriving DecidableEq

/-- Sets a socket up and connects it. -/
def RawSocket.establish (s : RawSocket) (settings : ConnectSettings) : Action Unit := do
  settings.options.zipIdx.forM fun (option, place) => s.setOption option place
  settings.timeout.forM s.setTimeout
  if !settings.source.isEmpty then s.bind settings.source
  s.connect

/-- Tries addresses in turn. `last` is the failure of the one before. A failed socket is closed
and the next address tried when the operating system is at fault; any other failure ends the
attempts at once. -/
def tryEntries (settings : ConnectSettings) (last : Failure) : List Entry → Action RawSocket
  | [] => fail last
  | entry :: entries => do
    match ← (openSocket entry).attempt with
    | .error e => if e.isOs then tryEntries settings e entries else fail e
    | .ok socket =>
      match ← (socket.establish settings).attempt with
      | .ok () => pure socket
      | .error e =>
        if e.isOs then
          (Socket.plain socket).close
          tryEntries settings e entries
        else fail e

/-- Opens a socket to a name, which may stand in brackets, and a port. -/
def connect (settings : ConnectSettings) (host : Text) (port : Int) : Action RawSocket := do
  tryEntries settings .noAddress (← lookup (Host.unbracketed host) port)

end Dialer
