import Dialer.Log
import Dialer.Platform

/-!
# Events

What a program does to the platform around it, step by step. A step that fails leaves its event
all the same.
-/

namespace Dialer

/-- Where the certificates of authorities come from. -/
inductive Authorities
  /-- The certificates that come with the library. -/
  | bundled
  | file (path : Text)
  deriving DecidableEq

/-- A step that can be seen from outside. -/
inductive Event
  /-- The lookup of a name for stream sockets. -/
  | lookup (host : Text) (port : Int)
  /-- The creation of a stream socket, with its number if there is one. -/
  | openSocket (family : Int) (created : Option Nat)
  | setOption (socket : Nat) (option : SocketOption)
  | setTimeout (socket : Nat) (timeout : Timeout)
  | bind (socket : Nat) (address : Address)
  | connect (socket : Nat) (address : Address)
  | close (socket : SocketName)
  /-- The creation of a context for the client side. -/
  | newContext (context : ContextName)
  | assign (context : ContextName) (setting : Setting)
  | setCiphers (context : ContextName) (ciphers : Text)
  | loadAuthorities (context : ContextName) (authorities : Authorities)
  /-- The TLS handshake over a socket. -/
  | wrap (context : ContextName) (socket : Nat) (serverName : Option Text)
  /-- A request to a factory that the caller supplied. -/
  | createSocket (factory : Text) (host : Text) (port : Int)
  /-- A record that a listener gets. -/
  | log (record : Record)
  /-- A line on the error stream. -/
  | stderr (line : Text)
  deriving DecidableEq

/-- What writing a record to a sink does. -/
def Sink.write (r : Record) : Sink → Event
  | listener => .log r
  | stamped => .stderr r.stamped
  | labelled => .stderr r.labelled

end Dialer
