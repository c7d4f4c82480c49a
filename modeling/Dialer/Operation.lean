import Dialer.Action
import Dialer.Host.Brackets

/-!
# Operations on the platform

The single steps on the platform. Each leaves its event, whether it fails or not.
-/

namespace Dialer

open Dialer.Action

/-! ## Names and sockets -/

/-- Looks up a name for a port. -/
def lookup (host : Text) (port : Int) : Action (List Entry) := do
  emit (.lookup host port)
  match (← environment).network host port with
  | .found entries => pure entries
  | .failed fault => fail (.fault fault)

/-- Takes up a socket under the next number. -/
def adoptSocket (faults : SocketFaults) (peer : Address) : Action RawSocket := do
  update fun p => { p with sockets := p.sockets + 1 }
  return { number := (← environment).sockets, faults, peer }

/-- Creates a socket for an address. -/
def openSocket (entry : Entry) : Action RawSocket := do
  match entry.faults .create with
  | some fault =>
    emit (.openSocket entry.family none)
    fail (.fault fault)
  | none =>
    let socket ← adoptSocket entry.faults entry.address
    emit (.openSocket entry.family (some socket.number))
    return socket

namespace RawSocket

/-- Sets the option that has this place among those to set. -/
def setOption (s : RawSocket) (option : SocketOption) (place : Nat) : Action Unit :=
  perform (.setOption s.number option) (s.faults (.setOption place))

/-- Sets how long the socket may wait. -/
def setTimeout (s : RawSocket) (timeout : Timeout) : Action Unit :=
  perform (.setTimeout s.number timeout) (s.faults .setTimeout)

/-- Binds the socket to an address of this host. -/
def bind (s : RawSocket) (source : Address) : Action Unit :=
  perform (.bind s.number source) (s.faults .bind)

/-- Connects the socket to its address. -/
def connect (s : RawSocket) : Action Unit :=
  perform (.connect s.number s.peer) (s.faults .connect)

end RawSocket

/-- Closes a socket. -/
def Socket.close (s : Socket) : Action Unit := perform (.close s.name) s.closeFault

/-! ## TLS contexts -/

/-- Creates a context. -/
def newContext : Action Context := do
  update fun p => { p with contexts := p.contexts + 1 }
  let p ← environment
  let context := Context.built p.contexts
  perform (.newContext context.name) (p.platform.faults .create)
  return context

namespace Context

/-- Takes a step on a context, which ends in the fault that the platform has for it. -/
def step (s : ContextStep) (e : Event) : Action Unit := do
  perform e ((← environment).platform.faults s)

/-- Assigns an attribute. -/
def assign (c : Context) (setting : Setting) : Action Unit :=
  step setting.step (.assign c.name setting)

/-- Chooses the ciphers. -/
def setCiphers (c : Context) (ciphers : Text) : Action Unit :=
  step .ciphers (.setCiphers c.name ciphers)

/-- Loads the certificates of authorities. -/
def loadAuthorities (c : Context) (authorities : Authorities) : Action Unit :=
  step .authorities (.loadAuthorities c.name authorities)

/-- The fault that wrapping a socket ends in. -/
def wrapFault (p : TlsPlatform) : Context → Option Fault
  | given _ fault => fault
  | built _ => p.faults .wrap

/-- Wraps a connected socket and makes the handshake. -/
def wrap (c : Context) (s : RawSocket) (serverName : Option Text) : Action Socket := do
  perform (.wrap c.name s.number serverName) (c.wrapFault (← environment).platform)
  return .tls s

end Context

end Dialer
