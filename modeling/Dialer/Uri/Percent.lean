import Dialer.Text.Decimal
import Dialer.Uri.Chars

/-!
# Percent-encoding

* `quote` writes the UTF-8 bytes of characters that have no place in a URI as upper-case escapes.
  Delimiters and escapes that are there already stay.
* `asciiForm` quotes only a text with characters beyond ASCII.
* `encodeComponent` refuses a text with a surrogate, which has no UTF-8 bytes, and gives the ASCII
  form of any other.
-/

namespace Dialer.Uri

/-- Whether quoting leaves the character as it is. -/
def isKept (c : CodePoint) : Bool := isUnreserved c || isSubDelim c || isGenDelim c || c = '%'

/-- The bytes of a code point by the scheme of UTF-8, which is for characters only. -/
def utf8 : CodePoint → List UInt8
  | char c => String.utf8EncodeChar c
  | .surrogate distance =>
    [0xED, UInt8.ofNat (0xA0 + distance / 64), UInt8.ofNat (0x80 + distance % 64)]

/-- The escapes of a code point's bytes. -/
def escapes (c : CodePoint) : Text := (utf8 c).flatMap fun b => char '%' :: Text.hexUpper b

/-- The text with every character that is not kept escaped. -/
def quote (s : Text) : Text := s.flatMap fun c => if isKept c then [c] else escapes c

/-- The ASCII form of a component. -/
def asciiForm (s : Text) : Text := if s.isAscii then s else quote s

/-- Why a text has no UTF-8 form: surrogates in a row, from a position on. -/
structure EncodingError where
  position : Nat
  surrogates : Text
  deriving DecidableEq

/-- What the error says. -/
def EncodingError.message (e : EncodingError) : Text :=
  match e.surrogates with
  | [c] =>
    "'utf-8' codec can't encode character '\\u" ++ Text.hexLower 4 c.toNat ++ "' in position "
      ++ Text.digits e.position ++ ": surrogates not allowed"
  | surrogates =>
    "'utf-8' codec can't encode characters in position " ++ Text.digits e.position ++ "-"
      ++ Text.digits (e.position + surrogates.length - 1) ++ ": surrogates not allowed"

/-- The first surrogates of a text, if it has any. -/
def encodingError? (s : Text) : Option EncodingError :=
  let rest := s.dropWhile (!·.isSurrogate)
  if rest.isEmpty then none
  else some ⟨s.length - rest.length, rest.takeWhile CodePoint.isSurrogate⟩

/-- The ASCII form of a component that can be written in UTF-8. -/
def encodeComponent (s : Text) : Except EncodingError Text :=
  match encodingError? s with
  | some e => .error e
  | none => .ok (asciiForm s)

theorem asciiForm_of_isAscii {s : Text} (h : s.isAscii = true) : asciiForm s = s := if_pos h

end Dialer.Uri
