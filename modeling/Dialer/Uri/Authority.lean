import Dialer.Host.Literal
import Dialer.Text.Quoted
import Dialer.Unicode.Compatibility
import Dialer.Unicode.Lowercase

/-!
# Authorities

The part of a reference between `//` and the path: user info before the last `@`, a host, which
may be a literal in brackets, and a port after a colon.

* `Authority.checkBrackets` refuses brackets that hold no address, and `Authority.checkDisguise`
  disguised delimiters.
* `Authority.userInfo`, `Authority.host` and `Authority.port` are the parts. A host is in lower
  case up to its first `%`, behind which stands the zone of an address.
-/

namespace Dialer.Uri

open Text

/-- Why an authority is refused. -/
inductive AuthorityError
  /-- A bracket without its partner, or text beside the brackets. -/
  | strayBracket
  /-- A literal that begins like a later version's but is none. -/
  | badFuture
  /-- A bracketed host that is no address. -/
  | notAnAddress (host : Text)
  /-- An IPv4 address in brackets. -/
  | bracketedIPv4
  /-- A character of the authority disguises a delimiter. -/
  | disguise (authority : Text)
  /-- A port that is not made of decimal digits. -/
  | portNotNumeric (port : Text)
  /-- A port of more digits than are read. -/
  | portTooLong (digits : Nat)
  /-- A port beyond 65535. -/
  | portOutOfRange

/-- What the error says. -/
def AuthorityError.message : AuthorityError → Text
  | strayBracket => "Invalid IPv6 URL"
  | badFuture => "IPvFuture address is invalid"
  | notAnAddress host =>
    (quoted host) ++ " does not appear to be an IPv4 or IPv6 address"
  | bracketedIPv4 => "An IPv4 address cannot be in brackets"
  | disguise authority =>
    "netloc '" ++ authority
      ++ "' contains invalid characters under NFKC normalization"
  | portNotNumeric port =>
    "Port could not be cast to integer value as " ++ (quoted port)
  | portTooLong n =>
    "Exceeds the limit (" ++ (digits maxDigits)
      ++ " digits) for integer string conversion: value has " ++ (digits n)
      ++ " digits; use sys.set_int_max_str_digits() to increase the limit"
  | portOutOfRange => "Port out of range 0-65535"

namespace Authority

/-! ## Checks -/

/-- Checks the host of an authority that has brackets. -/
def checkBracketedHost (host : Text) : Except AuthorityError Unit :=
  if host.head? = some (char 'v') then
    if Host.isFuture host then .ok () else .error .badFuture
  else if Host.isIPv4 host then .error .bracketedIPv4
  else if Host.isIPv6 host then .ok ()
  else .error (.notAnAddress host)

/-- Checks what stands after the user info in an authority that has brackets. -/
def checkBracketed (hostPort : Text) : Except AuthorityError Unit :=
  match cutFirst '[' hostPort with
  | (before, some bracketed) =>
    let (host, after) := cutFirst ']' bracketed
    if !before.isEmpty then .error .strayBracket
    else if (after.getD []).head?.any (· != char ':') then .error .strayBracket
    else checkBracketedHost host
  | (_, none) => checkBracketedHost (cutFirst ':' hostPort).1

/-- Checks that brackets come in pairs and hold an address. -/
def checkBrackets (authority : Text) : Except AuthorityError Unit :=
  match authority.contains '[', authority.contains ']' with
  | false, false => .ok ()
  | true, true => checkBracketed (cutLast '@' authority).2
  | _, _ => .error .strayBracket

/-- Checks that no character disguises a delimiter. -/
def checkDisguise (authority : Text) : Except AuthorityError Unit :=
  if authority.any Unicode.disguisesDelimiter then .error (.disguise authority) else .ok ()

/-! ## Parts -/

/-- The text before the last `@`. -/
def userInfo (authority : Text) : Option Text := (cutLast '@' authority).1

/-- The host as written, without brackets, and the port as written. -/
def hostPort (authority : Text) : Text × Text :=
  let rest := (cutLast '@' authority).2
  match cutFirst '[' rest with
  | (_, some bracketed) =>
    let (host, after) := cutFirst ']' bracketed
    (host, ((cutFirst ':' (after.getD [])).2).getD [])
  | (_, none) =>
    let (host, port) := cutFirst ':' rest
    (host, port.getD [])

/-- A host in lower case up to its first `%`. -/
def lowerHost (host : Text) : Text :=
  match cutFirst '%' host with
  | (name, none) => Unicode.lower name
  | (name, some zone) => Unicode.lower name ++ char '%' :: zone

/-- The host, in lower case; none if it is empty. -/
def host (authority : Text) : Option Text :=
  match (hostPort authority).1 with
  | [] => none
  | written => some (lowerHost written)

/-- The port; none if it is missing or empty. -/
def port (authority : Text) : Except AuthorityError (Option Nat) :=
  match (hostPort authority).2 with
  | [] => .ok none
  | written =>
    if !written.all CodePoint.isDigit then .error (.portNotNumeric written)
    else if maxDigits < written.length then .error (.portTooLong written.length)
    else if 65535 < value written then .error .portOutOfRange
    else .ok (some (value written))

end Authority

end Dialer.Uri
