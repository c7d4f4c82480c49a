import Dialer.Idna.Label
import Dialer.Idna.Mapping

/-!
# Domain names

* `encode?` takes a host in lower case to its ASCII form: it is mapped, cut into labels, and every
  label is encoded. A last dot stays; any other empty label is refused.
-/

namespace Dialer.Idna

/-- Joins labels by dots. -/
def joinLabels : List Text → Text
  | [] => []
  | [label] => label
  | label :: labels => label ++ char '.' :: joinLabels labels

/-- The encoded form of labels, of which the last may be empty, at most 253 characters long
apart from a last dot. -/
def encodeLabels (labels : List Text) : Option Text :=
  let rooted := labels.getLast? == some []
  let named := if rooted then labels.dropLast else labels
  match named.mapM Label.encode? with
  | none => none
  | some encoded =>
    let name := joinLabels (if rooted then encoded ++ [[]] else encoded)
    if name.length ≤ (if rooted then 254 else 253) then some name else none

/-- The ASCII form of a host in lower case. -/
def encode? (host : Text) : Option Text :=
  match mapText host with
  | none => none
  | some mapped =>
    match Text.splitOn '.' mapped with
    | [[]] => none
    | labels => encodeLabels labels

end Dialer.Idna
