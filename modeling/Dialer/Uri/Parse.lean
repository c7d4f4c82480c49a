import Dialer.Uri.Parts
import Dialer.Uri.Percent
import Dialer.Uri.Url

/-!
# Parsing a URL

A text is checked against the syntax of RFC 3986 and split. A text with characters beyond ASCII is
turned into a URI on the way: its host is encoded as a domain name and its other parts are
percent-encoded, which fails where they hold surrogates.

* `Url.parseWith` parses, given the encoding of host names.
* `ParseError` says why a text is no URL.
-/

namespace Dialer

open Uri

/-- How host names are encoded: the ASCII form of a host in lower case, if it has one. -/
abbrev HostEncoding := Text → Option Text

/-- The encoding that leaves hosts to be ASCII. -/
def HostEncoding.asciiOnly : HostEncoding := fun _ => none

/-- Why a text is no URL. -/
inductive ParseError
  /-- A character that no URI contains. -/
  | illegalCharacter
  /-- A `%` without two hexadecimal digits. -/
  | malformedEscape
  /-- A malformed authority. -/
  | authority (error : AuthorityError)
  /-- A host name without an ASCII form. -/
  | invalidHost (host : Text)
  /-- A component with surrogates. -/
  | unencodable (error : EncodingError)
  /-- A character that the component may not hold. -/
  | illegalIn (component : Component)

/-- What the error says. -/
def ParseError.message : ParseError → Text
  | illegalCharacter => "illegal character"
  | malformedEscape => "malformed percent-encoding"
  | authority error => error.message
  | invalidHost host => "invalid host " ++ (Text.quoted host)
  | unencodable error => error.message
  | illegalIn component => "illegal character in " ++ component.name

namespace Url

/-- The ASCII form of a host, by `encode` if it is not ASCII already. -/
def asciiHost (encode : HostEncoding) (host : Text) : Except ParseError Text :=
  if host.isAscii then .ok host
  else
    match encode host with
    | some name => .ok name
    | none => .error (.invalidHost host)

/-- The ASCII form of a component. -/
def asciiComponent (s : Text) : Except ParseError Text :=
  (encodeComponent s).mapError .unencodable

/-- Checks the characters of a component. -/
def checkComponent (component : Component) (s : Text) : Except ParseError Unit :=
  if s.all component.allows then .ok () else .error (.illegalIn component)

/-- Whether a query is present: a `?` before any `#`. -/
def hasQuery (s : Text) : Bool := (Text.cutFirst '#' s).1.contains '?'

/-- The URL of a text, with `encode` for host names that are not ASCII. -/
def parseWith (encode : HostEncoding) (s : Text) : Except ParseError Url := do
  if s.any isIllegal then throw .illegalCharacter
  if !escapesFit s then throw .malformedEscape
  let parts ← (Parts.split s).mapError .authority
  let port ← (Authority.port parts.authority).mapError .authority
  let host ← (Authority.host parts.authority).mapM (asciiHost encode)
  let userInfo ← (Authority.userInfo parts.authority).mapM asciiComponent
  let path ← asciiComponent parts.path
  let query ← (if hasQuery s then some parts.query else none).mapM asciiComponent
  let fragment ← asciiComponent parts.fragment
  userInfo.forM (checkComponent .userInfo)
  checkComponent .path path
  query.forM (checkComponent .query)
  checkComponent .fragment fragment
  return {
    scheme := if parts.scheme.isEmpty then none else some parts.scheme
    userInfo
    host
    port := port.map Int.ofNat
    path := some path
    query }

end Url

end Dialer
