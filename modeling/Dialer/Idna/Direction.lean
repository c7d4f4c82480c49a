import Dialer.Unicode.CodeTable

/-!
# Writing directions and the Bidi rule

A label with right-to-left characters keeps to one direction and ends in a character of that
direction, marks aside (RFC 5893).

* `direction` is the Bidi class of a character that a label may hold (Unicode 14).
* `obeysBidiRule` is the rule for a whole label.
-/

namespace Dialer.Idna

open Unicode

/-- The Bidi classes of the characters that labels may hold. -/
inductive Direction
  /-- Left to right. -/
  | left
  /-- Right to left. -/
  | right
  | arabicLetter
  | arabicNumber
  | europeanNumber
  | europeanSeparator
  | boundaryNeutral
  | mark
  | neutral
  deriving DecidableEq

/-- The class that an abbreviation names. -/
def Direction.ofName : Text → Direction
  | [char 'R'] => right
  | [char 'A', char 'L'] => arabicLetter
  | [char 'A', char 'N'] => arabicNumber
  | [char 'E', char 'N'] => europeanNumber
  | [char 'E', char 'S'] => europeanSeparator
  | [char 'B', char 'N'] => boundaryNeutral
  | [char 'N', char 'S', char 'M'] => mark
  | [char 'O', char 'N'] => neutral
  | _ => left

/-- The characters of labels that do not run left to right. -/
def directions : CodeTable Direction := .read Direction.ofName "
2D:ES 30-39:EN B7:ON 2B9-2BA:ON 2C6-2CF:ON 2EC:ON 300-33F:NSM 342:NSM 346-34E:NSM 350-36F:NSM
375:ON 483-487:NSM 591-5BD:NSM 5BF:NSM 5C1-5C2:NSM 5C4-5C5:NSM 5C7:NSM 5D0-5EA:R 5EF-5F4:R
610-61A:NSM 620-63F:AL 641-64A:AL 64B-65F:NSM 660-669:AN 66E-66F:AL 670:NSM 671-674:AL 679-6D3:AL
6D5:AL 6D6-6DC:NSM 6DF-6E4:NSM 6E5-6E6:AL 6E7-6E8:NSM 6EA-6ED:NSM 6EE-6EF:AL 6F0-6F9:EN 6FA-6FF:AL
710:AL 711:NSM 712-72F:AL 730-74A:NSM 74D-7A5:AL 7A6-7B0:NSM 7B1:AL 7C0-7EA:R 7EB-7F3:NSM
7F4-7F5:R 7FD:NSM 800-815:R 816-819:NSM 81A:R 81B-823:NSM 824:R 825-827:NSM 828:R 829-82D:NSM
840-858:R 859-85B:NSM 860-86A:AL 870-887:AL 889-88E:AL 898-89F:NSM 8A0-8C9:AL 8CA-8E1:NSM
8E3-902:NSM 93A:NSM 93C:NSM 941-948:NSM 94D:NSM 951-957:NSM 962-963:NSM 981:NSM 9BC:NSM
9C1-9C4:NSM 9CD:NSM 9E2-9E3:NSM 9FE:NSM A01-A02:NSM A3C:NSM A41-A42:NSM A47-A48:NSM A4B-A4D:NSM
A51:NSM A70-A71:NSM A75:NSM A81-A82:NSM ABC:NSM AC1-AC5:NSM AC7-AC8:NSM ACD:NSM AE2-AE3:NSM
AFA-AFF:NSM B01:NSM B3C:NSM B3F:NSM B41-B44:NSM B4D:NSM B55-B56:NSM B62-B63:NSM B82:NSM BC0:NSM
BCD:NSM C00:NSM C04:NSM C3C:NSM C3E-C40:NSM C46-C48:NSM C4A-C4D:NSM C55-C56:NSM C62-C63:NSM
C81:NSM CBC:NSM CCC-CCD:NSM CE2-CE3:NSM D00-D01:NSM D3B-D3C:NSM D41-D44:NSM D4D:NSM D62-D63:NSM
D81:NSM DCA:NSM DD2-DD4:NSM DD6:NSM E31:NSM E34-E3A:NSM E47-E4E:NSM EB1:NSM EB4-EBC:NSM
EC8-ECD:NSM F18-F19:NSM F35:NSM F37:NSM F39:NSM F71-F72:NSM F74:NSM F7A-F7E:NSM F80:NSM
F82-F84:NSM F86-F87:NSM F8D-F92:NSM F94-F97:NSM F99-F9C:NSM F9E-FA1:NSM FA3-FA6:NSM FA8-FAB:NSM
FAD-FB8:NSM FBA-FBC:NSM FC6:NSM 102D-1030:NSM 1032-1037:NSM 1039-103A:NSM 103D-103E:NSM
1058-1059:NSM 105E-1060:NSM 1071-1074:NSM 1082:NSM 1085-1086:NSM 108D:NSM 109D:NSM 135D-135F:NSM
1712-1714:NSM 1732-1733:NSM 1752-1753:NSM 1772-1773:NSM 17B7-17BD:NSM 17C6:NSM 17C9-17D3:NSM
17DD:NSM 1885-1886:NSM 18A9:NSM 1920-1922:NSM 1927-1928:NSM 1932:NSM 1939-193B:NSM 1A17-1A18:NSM
1A1B:NSM 1A56:NSM 1A58-1A5E:NSM 1A60:NSM 1A62:NSM 1A65-1A6C:NSM 1A73-1A7C:NSM 1A7F:NSM
1AB0-1ABD:NSM 1ABF-1ACE:NSM 1B00-1B03:NSM 1B34:NSM 1B36-1B3A:NSM 1B3C:NSM 1B42:NSM 1B6B-1B73:NSM
1B80-1B81:NSM 1BA2-1BA5:NSM 1BA8-1BA9:NSM 1BAB-1BAD:NSM 1BE6:NSM 1BE8-1BE9:NSM 1BED:NSM
1BEF-1BF1:NSM 1C2C-1C33:NSM 1C36-1C37:NSM 1CD0-1CD2:NSM 1CD4-1CE0:NSM 1CE2-1CE8:NSM 1CED:NSM
1CF4:NSM 1CF8-1CF9:NSM 1DC0-1DFF:NSM 200C-200D:BN 2CEF-2CF1:NSM 2D7F:NSM 2DE0-2DFF:NSM 2E2F:ON
302A-302D:NSM 3099-309A:NSM 30FB:ON A66F:NSM A674-A67D:NSM A67F:ON A69E-A69F:NSM A6F0-A6F1:NSM
A717-A71F:ON A788:ON A802:NSM A806:NSM A80B:NSM A825-A826:NSM A82C:NSM A8C4-A8C5:NSM A8E0-A8F1:NSM
A8FF:NSM A926-A92D:NSM A947-A951:NSM A980-A982:NSM A9B3:NSM A9B6-A9B9:NSM A9BC-A9BD:NSM A9E5:NSM
AA29-AA2E:NSM AA31-AA32:NSM AA35-AA36:NSM AA43:NSM AA4C:NSM AA7C:NSM AAB0:NSM AAB2-AAB4:NSM
AAB7-AAB8:NSM AABE-AABF:NSM AAC1:NSM AAEC-AAED:NSM AAF6:NSM ABE5:NSM ABE8:NSM ABED:NSM FB1E:NSM
FE20-FE2F:NSM FE73:AL 101FD:NSM 102E0:NSM 10376-1037A:NSM 10800-10805:R 10808:R 1080A-10835:R
10837-10838:R 1083C:R 1083F-10855:R 10860-10876:R 10880-1089E:R 108E0-108F2:R 108F4-108F5:R
10900-10915:R 10920-10939:R 10980-109B7:R 109BE-109BF:R 10A00:R 10A01-10A03:NSM 10A05-10A06:NSM
10A0C-10A0F:NSM 10A10-10A13:R 10A15-10A17:R 10A19-10A35:R 10A38-10A3A:NSM 10A3F:NSM 10A60-10A7C:R
10A80-10A9C:R 10AC0-10AC7:R 10AC9-10AE4:R 10AE5-10AE6:NSM 10B00-10B35:R 10B40-10B55:R
10B60-10B72:R 10B80-10B91:R 10C00-10C48:R 10CC0-10CF2:R 10D00-10D23:AL 10D24-10D27:NSM
10D30-10D39:AN 10E80-10EA9:R 10EAB-10EAC:NSM 10EB0-10EB1:R 10F00-10F1C:R 10F27:R 10F30-10F45:AL
10F46-10F50:NSM 10F70-10F81:R 10F82-10F85:NSM 10FB0-10FC4:R 10FE0-10FF6:R 11001:NSM
11038-11046:NSM 11070:NSM 11073-11074:NSM 1107F-11081:NSM 110B3-110B6:NSM 110B9-110BA:NSM
110C2:NSM 11100-11102:NSM 11127-1112B:NSM 1112D-11134:NSM 11173:NSM 11180-11181:NSM
111B6-111BE:NSM 111C9-111CC:NSM 111CF:NSM 1122F-11231:NSM 11234:NSM 11236-11237:NSM 1123E:NSM
112DF:NSM 112E3-112EA:NSM 11300-11301:NSM 1133B-1133C:NSM 11340:NSM 11366-1136C:NSM
11370-11374:NSM 11438-1143F:NSM 11442-11444:NSM 11446:NSM 1145E:NSM 114B3-114B8:NSM 114BA:NSM
114BF-114C0:NSM 114C2-114C3:NSM 115B2-115B5:NSM 115BC-115BD:NSM 115BF-115C0:NSM 115DC-115DD:NSM
11633-1163A:NSM 1163D:NSM 1163F-11640:NSM 116AB:NSM 116AD:NSM 116B0-116B5:NSM 116B7:NSM
1171D-1171F:NSM 11722-11725:NSM 11727-1172B:NSM 1182F-11837:NSM 11839-1183A:NSM 1193B-1193C:NSM
1193E:NSM 11943:NSM 119D4-119D7:NSM 119DA-119DB:NSM 119E0:NSM 11A01-11A06:NSM 11A09-11A0A:NSM
11A33-11A38:NSM 11A3B-11A3E:NSM 11A47:NSM 11A51-11A56:NSM 11A59-11A5B:NSM 11A8A-11A96:NSM
11A98-11A99:NSM 11C30-11C36:NSM 11C38-11C3D:NSM 11C92-11CA7:NSM 11CAA-11CB0:NSM 11CB2-11CB3:NSM
11CB5-11CB6:NSM 11D31-11D36:NSM 11D3A:NSM 11D3C-11D3D:NSM 11D3F-11D45:NSM 11D47:NSM
11D90-11D91:NSM 11D95:NSM 11D97:NSM 11EF3-11EF4:NSM 16AF0-16AF4:NSM 16B30-16B36:NSM 16F4F:NSM
16F8F-16F92:NSM 16FE4:NSM 1BC9D-1BC9E:NSM 1CF00-1CF2D:NSM 1CF30-1CF46:NSM 1DA00-1DA36:NSM
1DA3B-1DA6C:NSM 1DA75:NSM 1DA84:NSM 1DA9B-1DA9F:NSM 1DAA1-1DAAF:NSM 1E000-1E006:NSM
1E008-1E018:NSM 1E01B-1E021:NSM 1E023-1E024:NSM 1E026-1E02A:NSM 1E130-1E136:NSM 1E2AE:NSM
1E2EC-1E2EF:NSM 1E800-1E8C4:R 1E8D0-1E8D6:NSM 1E922-1E943:R 1E944-1E94A:NSM 1E94B:R 1E950-1E959:R"

/-- The Bidi class of a character that a label may hold. -/
def direction (c : CodePoint) : Direction := (directions.get? c).getD .left

namespace Direction

/-- Whether the class makes its label a right-to-left one or needs one. -/
def isRightToLeft : Direction → Bool
  | right | arabicLetter | arabicNumber => true
  | _ => false

/-- Whether the class may stand in a right-to-left label. -/
def fitsRightToLeft : Direction → Bool
  | left => false
  | _ => true

/-- Whether the class may stand in a left-to-right label. -/
def fitsLeftToRight (d : Direction) : Bool := !d.isRightToLeft

/-- Whether a right-to-left label may end in the class, marks aside. -/
def endsRightToLeft : Direction → Bool
  | right | arabicLetter | arabicNumber | europeanNumber => true
  | _ => false

/-- Whether a left-to-right label may end in the class, marks aside. -/
def endsLeftToRight : Direction → Bool
  | left | europeanNumber => true
  | _ => false

end Direction

/-- The Bidi rule. It binds only labels that hold a right-to-left character. -/
def obeysBidiRule (label : Text) : Bool :=
  let classes := label.map direction
  let ending := (classes.reverse.dropWhile (· == .mark)).head?
  if classes.any Direction.isRightToLeft then
    match classes.head? with
    | some .right | some .arabicLetter =>
      classes.all Direction.fitsRightToLeft
        && ending.any Direction.endsRightToLeft
        && !(classes.contains .arabicNumber && classes.contains .europeanNumber)
    | some .left =>
      classes.all Direction.fitsLeftToRight && ending.any Direction.endsLeftToRight
    | _ => false
  else true

end Dialer.Idna
