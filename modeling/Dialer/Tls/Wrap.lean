import Dialer.Operation

/-!
# Wrapping connected sockets

* `wrapConnected` makes the TLS handshake and closes the socket if that fails in any way.
-/

namespace Dialer.Tls

open Dialer.Action

/-- Wraps a connected socket. The server name loses its brackets if it begins with one. -/
def wrapConnected (c : Context) (s : RawSocket) (serverName : Option Text) : Action Socket :=
  (c.wrap s (serverName.map Host.unbracketed)).onFailure fun _ => (Socket.plain s).close

end Dialer.Tls
