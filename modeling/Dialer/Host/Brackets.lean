import Dialer.Text.Basic

/-!
# Brackets around a host

An address with colons stands in brackets inside a URI, and without them where a name is looked
up or a certificate is checked.

* `unbracketed` takes the brackets away where a host begins with one.
* `bracketed` puts them around a host with a colon.
-/

namespace Dialer.Host

/-- Whether the character is a bracket. -/
def isBracket (c : CodePoint) : Bool := c = '[' || c = ']'

/-- The host without the brackets at its ends, if it begins with one. -/
def unbracketed (host : Text) : Text :=
  if host.head? = some (char '[') then Text.trim isBracket host else host

/-- The host in brackets if it holds a colon. -/
def bracketed (host : Text) : Text :=
  if host.contains ':' then char '[' :: host ++ [char ']'] else host

theorem unbracketed_of_head {host : Text}
    (h : host.head? ≠ some (char '[')) : unbracketed host = host :=
  if_neg h

end Dialer.Host
