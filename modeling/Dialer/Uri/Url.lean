import Dialer.Host.Brackets
import Dialer.Text.Decimal

/-!
# URLs

The parts of a URI that dialling an endpoint needs. A missing part is `none`; a query that is
present but empty is `some []`.

* `Url.authority` and `Url.toText` print a URL, `portSuffix` its port.
* `canWritePort` says which ports a program can print.
-/

namespace Dialer

/-- A URI split into the parts that dialling needs. A negative port counts as missing. -/
structure Url where
  scheme : Option Text := none
  userInfo : Option Text := none
  host : Option Text := none
  port : Option Int := none
  path : Option Text := none
  query : Option Text := none
  deriving DecidableEq

/-- A port after a colon, and nothing for a missing port. -/
def portSuffix : Option Int → Text
  | some (.ofNat n) => char ':' :: Text.digits n
  | _ => []

/-- Whether the port, if there is one, has no more digits than may be written. -/
def canWritePort : Option Int → Bool
  | some (.ofNat n) => Text.isWritable n
  | _ => true

/-- The authority: the host, between the user info and the port if they are present. -/
def Url.authority (u : Url) : Option Text :=
  u.host.map fun host =>
    u.userInfo.elim [] (· ++ [char '@']) ++ Host.bracketed host ++ portSuffix u.port

/-- The text of the URL. -/
def Url.toText (u : Url) : Text :=
  u.scheme.elim [] (· ++ [char ':']) ++ u.authority.elim [] ("//".toText ++ ·) ++ u.path.getD []
    ++ u.query.elim [] (char '?' :: ·)

end Dialer
