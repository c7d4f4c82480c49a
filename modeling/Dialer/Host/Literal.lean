import Dialer.Text.Decimal
import Dialer.Text.Hex

/-!
# Address literals

The texts that may stand between the brackets of a host.

* `isIPv4` holds of four decimal octets without leading zeros.
* `isIPv6` holds of eight groups, of which one run may be left out and the last two may be
  written as an IPv4 address, with an optional zone after `%`.
* `isFuture` holds of a literal of a later version, `v` and the version before a dot.
-/

namespace Dialer.Host

open Text

/-! ## IPv4 -/

/-- Whether the text is a decimal octet. -/
def isOctet (s : Text) : Bool :=
  !s.isEmpty && s.all CodePoint.isDigit && s.length ≤ 3 &&
    (s == [char '0'] || s.head? != some (char '0'))
    && value s ≤ 255

/-- Whether the text is an IPv4 address. -/
def isIPv4 (s : Text) : Bool :=
  let octets := splitOn '.' s
  octets.length == 4 && octets.all isOctet

/-! ## IPv6 -/

/-- Whether the text is a group of an IPv6 address. -/
def isGroup (s : Text) : Bool := !s.isEmpty && s.length ≤ 4 && s.all isHexDigit

/-- The pieces of an address, with a last IPv4 address counted as two groups; none if that
address is malformed. -/
def countedPieces (pieces : List Text) : Option (List Text) :=
  match pieces.getLast? with
  | some last =>
    if last.contains '.' then
      if isIPv4 last then some (pieces.dropLast ++ [[char '0'], [char '0']]) else none
    else some pieces
  | none => some pieces

/-- The number of groups on one side of the gap, if they are well-formed. The side that is the
end of the address is one empty piece. -/
def groupsBeside : List Text → Option Nat
  | [[]] => some 0
  | side => if side.all isGroup then some side.length else none

/-- Whether pieces make up an address: eight groups, or at most seven around a gap. -/
def piecesFit (pieces : List Text) : Bool :=
  match (pieces.drop 1).dropLast.findIdx? List.isEmpty with
  | none => pieces.length == 8 && pieces.all isGroup
  | some i =>
    match groupsBeside (pieces.take (i + 1)), groupsBeside (pieces.drop (i + 2)) with
    | some before, some after => before + after ≤ 7
    | _, _ => false

/-- Whether the zone, if there is one, is not empty and holds no further `%`. -/
def zoneFits (zone : Option Text) : Bool :=
  zone.all fun z => !z.isEmpty && !z.contains '%'

/-- Whether the text is an IPv6 address, with or without a zone. -/
def isIPv6 (s : Text) : Bool :=
  let (address, zone) := cutFirst '%' s
  zoneFits zone && (countedPieces (splitOn ':' address)).any piecesFit

/-! ## Later versions -/

/-- Whether the text is an address of a later version: `v`, hexadecimal digits, a dot and more. -/
def isFuture : Text → Bool
  | char 'v' :: s =>
    match cutFirst '.' s with
    | (version, some address) =>
      !version.isEmpty && version.all isHexDigit && !address.isEmpty
    | (_, none) => false
  | _ => false

end Dialer.Host
