import Dialer.Text.Hex

/-!
# Characters of a URI

The character classes of RFC 3986.

* `isIllegal` holds of the ASCII characters that no URI contains.
* `Component.allows` tells which ASCII characters each checked component admits. Escapes are
  checked apart, by `escapesFit`.
-/

namespace Dialer.Uri

open Text

/-- Whether the character is unreserved. -/
def isUnreserved (c : CodePoint) : Bool :=
  c.isAlphanum || c = '-' || c = '.' || c = '_' || c = '~'

/-- Whether the character delimits parts inside a component. -/
def isSubDelim (c : CodePoint) : Bool := "!$&'()*+,;=".toText.contains c

/-- Whether the character delimits components. -/
def isGenDelim (c : CodePoint) : Bool := ":/?#[]@".toText.contains c

/-- Whether the character is an ASCII character that a URI may not contain. -/
def isIllegal (c : CodePoint) : Bool :=
  c.toNat ≤ 0x20 || c.toNat = 0x7F || "\"<>\\^\x60\x7b|\x7d".toText.contains c

/-- The components whose characters are checked. -/
inductive Component
  | userInfo
  | path
  | query
  | fragment
  deriving DecidableEq

/-- The name of a component in messages. -/
def Component.name : Component → Text
  | userInfo => "user info"
  | path => "path"
  | query => "query"
  | fragment => "fragment"

/-- Whether the component may hold the character. -/
def Component.allows : Component → CodePoint → Bool
  | userInfo, c => isUnreserved c || isSubDelim c || c = '%' || c = ':'
  | path, c => isUnreserved c || isSubDelim c || c = '%' || c = ':' || c = '@' || c = '/'
  | query, c | fragment, c =>
    isUnreserved c || isSubDelim c || c = '%' || c = ':' || c = '@' || c = '/' || c = '?'

/-- Whether two hexadecimal digits follow every `%`. -/
def escapesFit : Text → Bool
  | [] => true
  | char '%' :: a :: b :: s => isHexDigit a && isHexDigit b && escapesFit s
  | c :: s => c != '%' && escapesFit s

end Dialer.Uri
