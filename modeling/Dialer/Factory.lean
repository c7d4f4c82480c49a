import Dialer.Connect
import Dialer.Tls.Configure
import Dialer.Tls.Wrap

/-!
# Socket factories

A factory opens connected sockets: plain ones, sockets with TLS, or whatever an object of the
caller's makes.

* `Factory.createSocket` opens a socket.
* `ContextSource.context` is the TLS context of a factory. One that was given none builds a
  default context when it first needs it and keeps it; a failed attempt leaves nothing behind.
* `defaultFactory` gives the process-wide factory for TLS or plain connections, which is created
  once.
-/

namespace Dialer

open Dialer.Action

/-- Where the context of a TLS factory comes from. -/
inductive ContextSource
  | given (context : Context)
  /-- Built on demand and kept in a slot. -/
  | onDemand (slot : Slot)

/-- How a factory opens sockets. -/
inductive Opener
  | plain (settings : ConnectSettings)
  | tls (settings : ConnectSettings) (source : ContextSource)
  /-- By an object of the caller's, which fails or makes sockets with the given faults. -/
  | supplied (name : Text) (fault : Option Fault) (faults : SocketFaults)

/-- Where a factory comes from, which tells it from others. -/
inductive Origin
  /-- Made by the caller, as the factory with this number. -/
  | made (number : Nat)
  /-- Created for the whole process, as the factory with this number. -/
  | processWide (number : Nat)
  /-- Made from a TLS context when it was needed. -/
  | derived
  deriving DecidableEq

/-- A socket factory. -/
structure Factory where
  origin : Origin
  opener : Opener

/-! ## Description -/

/-- The class of plain factories, by name. -/
def plainClass : Text := "PlainSocketFactory"

/-- The class of TLS factories, by name. -/
def tlsClass : Text := "SSLSocketFactory"

/-- The class of the caller's own factories, by name. -/
def suppliedClass : Text := "FakeFactory"

/-- The class of a factory, by name. -/
def Opener.className : Opener → Text
  | plain _ => plainClass
  | tls .. => tlsClass
  | supplied .. => suppliedClass

/-- How a factory shows a timeout. -/
def timeoutText : Option Timeout → Except Failure Text
  | none => .ok "default"
  | some .unlimited => .ok "None"
  | some (.limit s) => if s.isWritable then .ok s.numeral else .error .unwritable

/-- A one-line description of a factory. -/
def Opener.describe (o : Opener) : Except Failure Text :=
  match o with
  | plain settings | tls settings _ =>
    (timeoutText settings.timeout).map fun timeout =>
      o.className ++ "(timeout=" ++ timeout ++ ")"
  | supplied .. => .ok o.className

/-! ## Contexts -/

/-- The context of a TLS factory, built now if need be. -/
def ContextSource.context : ContextSource → Action Context
  | given context => pure context
  | onDemand slot => do
    match (← environment).held slot with
    | some context => pure context
    | none =>
      report .debug .factory "Creating default SSL context"
      let context ← Tls.buildContext {}
      update (·.hold slot context)
      return context

/-- The context of a TLS factory, unless it is still to be built. -/
def ContextSource.present? (p : Environment) : ContextSource → Option Context
  | given context => some context
  | onDemand slot => p.held slot

/-- The context of a factory, built now if need be. Only TLS factories have one. -/
def Factory.context (f : Factory) : Action Context :=
  match f.opener with
  | .tls _ source => source.context
  | opener => fail (.noContext opener.className)

/-- The context that a factory has so far. -/
def Factory.context? (p : Environment) (f : Factory) : Option Context :=
  match f.opener with
  | .tls _ source => source.present? p
  | _ => none

/-! ## Opening sockets -/

/-- The report of a failed handshake. A port that has been looked up can be written. -/
def handshakeMessage (host : Text) (port : Int) : Text :=
  "TLS handshake with " ++ host ++ ":" ++ (Text.numeral port)
    ++ " failed, socket closed"

/-- Opens a socket to a host and wraps it, and reports when the operating system makes the
handshake fail. -/
def createTlsSocket (settings : ConnectSettings) (source : ContextSource) (host : Text)
    (port : Int) : Action Socket := do
  let context ← source.context
  let raw ← connect settings host port
  (Tls.wrapConnected context raw (some host)).onFailure fun e =>
    if e.isOs then report .debug .factory (handshakeMessage host port) else pure ()

/-- Opens a socket to a host and a port. -/
def Factory.createSocket (f : Factory) (host : Text) (port : Int) : Action Socket :=
  match f.opener with
  | .plain settings => Socket.plain <$> connect settings host port
  | .tls settings source => createTlsSocket settings source host port
  | .supplied name fault faults => do
    perform (.createSocket name host port) fault
    Socket.plain <$> adoptSocket faults []

/-! ## Environment-wide factories -/

/-- How a process-wide factory opens sockets. -/
def Opener.processWide (secure : Bool) : Opener :=
  if secure then .tls {} (.onDemand .processWide) else .plain {}

/-- The process-wide factory with this number. -/
def Factory.processWide (secure : Bool) (number : Nat) : Factory :=
  ⟨.processWide number, .processWide secure⟩

/-- The report of a process-wide factory about to be created. -/
def creationMessage (secure : Bool) : Text :=
  if secure then "Creating default SSL socket factory" else "Creating default plain socket factory"

/-- The process-wide factory for TLS or plain connections, created when it is first asked for. -/
def defaultFactory (secure : Bool) : Action Factory := do
  match (← environment).processWide secure with
  | some number => return .processWide secure number
  | none =>
    report .debug .factory (creationMessage secure)
    update (·.createDefault secure)
    return .processWide secure (← environment).factories

/-- The TLS factory of a context. -/
def Factory.ofContext (context : Context) (origin : Origin) : Factory :=
  ⟨origin, .tls {} (.given context)⟩

end Dialer
