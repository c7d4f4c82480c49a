import Dialer.Failure
import Dialer.Text.Fraction
import Dialer.Tls.Constants

/-!
# The platform

What a program finds around it: a network that answers lookups and connects sockets, and a TLS
implementation that configures contexts and wraps sockets. Any step may fail with any fault, and a
step that fails does so each time.

* `Network` says what the lookup of a name finds.
* `TlsPlatform` says how default TLS contexts behave.
* `RawSocket`, `Socket` and `Context` are what a program holds of the platform.
-/

namespace Dialer

/-! ## Sockets -/

/-- The address of a socket. -/
abbrev Address := List Atom

/-- The steps of a socket's life that may fail. -/
inductive SocketStep
  | create
  /-- The option that has this place among those to set. -/
  | setOption (place : Nat)
  | setTimeout
  | bind
  | connect
  | close
  deriving DecidableEq

/-- The faults that the steps of a socket end in. -/
abbrev SocketFaults := SocketStep → Option Fault

/-- A socket as created, with its number, its faults and the address that it is for. -/
structure RawSocket where
  number : Nat
  faults : SocketFaults
  peer : Address

/-- A connected socket, bare or with TLS around it. -/
inductive Socket
  | plain (raw : RawSocket)
  | tls (raw : RawSocket)

/-- The name of a socket. -/
inductive SocketName
  | plain (number : Nat)
  | tls (number : Nat)
  deriving DecidableEq

/-- The socket inside. -/
def Socket.raw : Socket → RawSocket
  | plain raw => raw
  | tls raw => raw

/-- The name of the socket. -/
def Socket.name : Socket → SocketName
  | plain raw => .plain raw.number
  | tls raw => .tls raw.number

/-- The fault that closing the socket ends in. TLS around a socket always closes. -/
def Socket.closeFault : Socket → Option Fault
  | plain raw => raw.faults .close
  | tls _ => none

/-- The value of a socket option. -/
inductive OptionValue
  | none
  | number (n : Int)
  | bytes (b : List UInt8)
  deriving DecidableEq

/-- An option to set on a socket, with the length that goes with a missing value. -/
structure SocketOption where
  level : Int
  name : Int
  value : OptionValue
  length : Option Int := none
  deriving DecidableEq

/-- A number of seconds, whole or measured more finely. -/
inductive Seconds
  | whole (n : Int)
  | fraction (f : Text.Fraction)
  deriving DecidableEq

/-- The numeral of the seconds. -/
def Seconds.numeral : Seconds → Text
  | whole n => Text.numeral n
  | fraction f => f.numeral

/-- Whether the seconds have no more digits than may be written. -/
def Seconds.isWritable : Seconds → Bool
  | whole n => Text.isWritable n.natAbs
  | fraction _ => true

/-- How long a socket may wait. -/
inductive Timeout
  | unlimited
  | limit (s : Seconds)
  deriving DecidableEq

/-! ## The network -/

/-- An address that a lookup finds. -/
structure Entry where
  family : Int
  address : Address
  faults : SocketFaults

/-- What a lookup leads to. -/
inductive Lookup
  | found (entries : List Entry)
  | failed (fault : Fault)

/-- What the lookup of each name, for each port, leads to. No lookup takes a port that has too many
digits to be written. -/
structure Network where
  lookup : Text → Int → Lookup
  refuses : ∀ host port, canWritePort (some port) = false → ∃ f, lookup host port = .failed f

instance : CoeFun Network fun _ => Text → Int → Lookup := ⟨Network.lookup⟩

/-- The network that answers so for all ports that it takes. -/
def Network.of (answer : Text → Int → Lookup) : Network where
  lookup host port :=
    if canWritePort (some port) then answer host port else .failed ⟨.overflow, []⟩
  refuses _ _ unwritable := ⟨_, if_neg (Bool.eq_false_iff.mp unwritable)⟩

theorem Network.of_apply {answer : Text → Int → Lookup} {port : Int}
    (writable : canWritePort (some port) = true) (host : Text) :
    Network.of answer host port = answer host port := if_pos writable

theorem Network.of_eq_found {answer : Text → Int → Lookup} {host : Text} {port : Int}
    {entries : List Entry} (found : Network.of answer host port = .found entries) :
    answer host port = .found entries := by
  change ite _ _ _ = _ at found
  split at found
  next => exact found
  next => cases found

/-- An entry that may leave the address to the lookup. -/
structure EntrySpec where
  family : Int
  address : Option Address
  faults : SocketFaults

/-- What a table says of a name. -/
inductive LookupSpec
  | found (entries : List EntrySpec)
  | failed (fault : Fault)

/-- The lookup of an unknown name. -/
def unknownName : Fault := ⟨.nameLookup, [.number (-2), .text "Name or service not known".toText]⟩

/-- The network that a table describes. The name `*` stands for all others. An entry without an
address has the name and port of the lookup. -/
def Network.ofTable (table : List (Text × LookupSpec)) : Network := .of fun host port =>
  match (table.lookup host).or (table.lookup [char '*']) with
  | none => .failed unknownName
  | some (.failed fault) => .failed fault
  | some (.found specs) =>
    .found (specs.map fun spec =>
      { family := spec.family
        address := spec.address.getD [.text host, .number port]
        faults := spec.faults })

/-! ## TLS -/

/-- The steps of a TLS context's life that may fail. -/
inductive ContextStep
  | create
  | options
  | postHandshakeAuth
  | checkHostname
  | verifyMode
  | minimumVersion
  | maximumVersion
  | ciphers
  | authorities
  | wrap
  deriving DecidableEq

/-- The TLS implementation behind default contexts. -/
structure TlsPlatform where
  /-- The options of a new context. -/
  initialOptions : Int := 0
  /-- Whether contexts know authentication after the handshake. -/
  postHandshakeAuth : Bool := true
  /-- What the names of the TLS module stand for. -/
  constants : Text → Option Tls.Constant := Tls.standardConstant
  /-- The faults that steps end in. -/
  faults : ContextStep → Option Fault := fun _ => none

/-- A TLS context: one that a caller gave, with the fault that wrapping ends in, or one built
here. -/
inductive Context
  | given (name : Text) (wrapFault : Option Fault)
  | built (number : Nat)

/-- The name of a context. -/
inductive ContextName
  | given (name : Text)
  | built (number : Nat)
  deriving DecidableEq

/-- The name of the context. -/
def Context.name : Context → ContextName
  | given name _ => .given name
  | built number => .built number

/-- An attribute of a context and a value for it. -/
inductive Setting
  | options (n : Int)
  | postHandshakeAuth (on : Bool)
  | checkHostname (on : Bool)
  | verifyMode (requirement : Tls.Constant)
  | minimumVersion (n : Int)
  | maximumVersion (n : Int)
  deriving DecidableEq

/-- The step that makes the setting. -/
def Setting.step : Setting → ContextStep
  | options _ => .options
  | postHandshakeAuth _ => .postHandshakeAuth
  | checkHostname _ => .checkHostname
  | verifyMode _ => .verifyMode
  | minimumVersion _ => .minimumVersion
  | maximumVersion _ => .maximumVersion

end Dialer
