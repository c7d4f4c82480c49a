import Dialer.Idna.Direction
import Dialer.Idna.Joining
import Dialer.Idna.Punycode
import Dialer.Idna.Repertoire
import Dialer.Unicode.Composed
import Dialer.Unicode.Mark
import Dialer.Unicode.Script

/-!
# Labels

What stands between two dots of a domain name, checked by the rules of IDNA 2008.

* `isValid` is the check of a label in Unicode.
* `encode?` is the ASCII form, in lower case: of a valid ASCII label the label itself, of any other
  valid label its Punycode.
-/

namespace Dialer.Idna.Label

open Unicode

/-! ## Contextual rules -/

/-- Whether the character before is a virama. -/
def followsVirama (before : Text) : Bool :=
  before.head?.any fun c => combiningClass c == 9

/-- Whether a digit belongs to the Arabic-Indic digits. -/
def isArabicIndic (c : CodePoint) : Bool := 0x660 ≤ c.toNat && c.toNat ≤ 0x669

/-- Whether a digit belongs to the extended Arabic-Indic digits. -/
def isExtendedArabicIndic (c : CodePoint) : Bool := 0x6F0 ≤ c.toNat && c.toNat ≤ 0x6F9

/-- Whether a character that needs a context has it. `before`, nearest first, and `after` are its
surroundings. -/
def fitsContext (before : Text) (c : CodePoint) (after : Text) : Bool :=
  if c = '\u200C' then
    followsVirama before || (meetsJoining .left before && meetsJoining .right after)
  else if c = '\u200D' then followsVirama before
  else if c = '·' then before.head? == some (char 'l') && after.head? == some (char 'l')
  else if c = '\u0375' then after.head?.any Script.greek.members.contains
  else if c = '\u05F3' || c = '\u05F4' then before.head?.any Script.hebrew.members.contains
  else if c = '\u30FB' then
    (before ++ after).any fun d =>
      d != '\u30FB' && (Script.hiragana.members.contains d || Script.katakana.members.contains d
        || Script.han.members.contains d)
  else if isArabicIndic c then !(before ++ after).any isExtendedArabicIndic
  else if isExtendedArabicIndic c then !(before ++ after).any isArabicIndic
  else false

/-- Whether every character of a label may stand where it stands. -/
def allFit (before : Text) : Text → Bool
  | [] => true
  | c :: after =>
    (isPermitted c || fitsContext before c after) && allFit (c :: before) after

/-! ## The check -/

/-- Whether the hyphens stand in their places: inside, and not third and fourth. -/
def hyphensFit (label : Text) : Bool :=
  (label.drop 2).take 2 != [char '-', char '-'] && label.head? != some (char '-') &&
    label.getLast? != some (char '-')

/-- Whether a label in Unicode is valid. -/
def isValid (label : Text) : Bool :=
  !label.isEmpty && composed label == label && hyphensFit label && !label.head?.any isMark
    && allFit [] label && obeysBidiRule label

/-- What an encoded label begins with. -/
def marker : Text := [char 'x', char 'n', char '-', char '-']

/-- Whether an ASCII label is valid: an encoded one by what it stands for. -/
def isValidAscii (label : Text) : Bool :=
  let small := label.map CodePoint.toLower
  if marker.isPrefixOf small then
    let encoded := small.drop 4
    !encoded.isEmpty && encoded.getLast? != some (char '-')
      && (Punycode.decode encoded).any isValid
  else isValid small

/-- The ASCII form of a label, at most 63 characters long. -/
def encode? (label : Text) : Option Text :=
  let encoded :=
    if label.isAscii then label.map CodePoint.toLower else marker ++ Punycode.encode label
  let valid := if label.isAscii then isValidAscii label else isValid label
  if valid && encoded.length ≤ 63 then some encoded else none

end Dialer.Idna.Label
