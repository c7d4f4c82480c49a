import Dialer.Reference
import Dialer.Unicode.Lowercase

/-!
# Endpoints

What a URL says about the connection to open and about the opening handshake.

* `isSecure` reads the scheme.
* `rootedPath` and `effectivePort` fill in what is missing.
* `hostHeader` and `requestTarget` assemble the two texts of the handshake.
* `writeHostHeader` and `Url.print` write texts with a port in them, which fails if the port has too
  many digits.
* `Endpoint.ofUrl` makes an endpoint of a URL, which must name a host.
-/

namespace Dialer

/-- The schemes that ask for TLS. -/
def secureSchemes : List Text := ["wss".toText, "https".toText]

/-- The schemes that ask for a plain connection. -/
def plainSchemes : List Text := ["ws".toText, "http".toText]

/-- Whether the scheme asks for TLS, letter case aside. -/
def isSecure : Option Text → Except ReferenceError Bool
  | none | some [] => .error .noScheme
  | some scheme =>
    let lowered := Unicode.lower scheme
    if secureSchemes.contains lowered then .ok true
    else if plainSchemes.contains lowered then .ok false
    else .error (.unknownScheme scheme)

/-- The path with a slash at its start. -/
def rootedPath : Option Text → Text
  | none => [char '/']
  | some (char '/' :: path) => char '/' :: path
  | some path => char '/' :: path

/-- The port of TLS or plain connections that name none. -/
def defaultPort (secure : Bool) : Int := if secure then 443 else 80

/-- The port, or the default if it is missing or negative. -/
def effectivePort (port : Option Int) (secure : Bool) : Int :=
  match port with
  | some (.ofNat n) => n
  | _ => defaultPort secure

/-- The value of the `Host` header. A host that begins with a bracket is not bracketed again. -/
def hostHeader (host : Text) (port : Option Int) : Text :=
  (if host.head? = some (char '[') then host else Host.bracketed host) ++ portSuffix port

/-- The request target: the path, and the query if there is one. -/
def requestTarget (path : Text) (query : Option Text) : Text :=
  path ++ query.elim [] (char '?' :: ·)

/-! ## Writing ports -/

/-- The text, in which the port is written, unless the port has too many digits for that. -/
def withPort (port : Option Int) (s : Text) : Except Failure Text :=
  if canWritePort port then .ok s else .error .unwritable

/-- Writes the value of the `Host` header. -/
def writeHostHeader (host : Text) (port : Option Int) : Except Failure Text :=
  withPort port (hostHeader host port)

/-- Prints a URL. Without a host there is no port to write. -/
def Url.print (u : Url) : Except Failure Text :=
  if u.host.isSome then withPort u.port u.toText else .ok u.toText

/-! ## Endpoints -/

/-- An endpoint to dial. -/
structure Endpoint where
  secure : Bool
  host : Text
  port : Int
  requestTarget : Text
  userInfo : Option Text

/-- The endpoint that a URL names. -/
def Endpoint.ofUrl (u : Url) : Except Failure Endpoint := do
  let secure ← (isSecure u.scheme).mapError .reference
  match u.host with
  | none | some [] =>
    let location ← u.print
    throw (.reference (.emptyHost location))
  | some host =>
    return {
      secure
      host
      port := effectivePort u.port secure
      requestTarget := Dialer.requestTarget (rootedPath u.path) u.query
      userInfo := u.userInfo }

/-- The endpoint that a reference names. -/
def Endpoint.ofReference (encode : HostEncoding) (r : Reference) : Except Failure Endpoint :=
  (r.toUrl encode).bind ofUrl

end Dialer
