import Dialer.Failure
import Dialer.Tls.Constants

/-!
# Certificate requirements

How strictly the certificate of a server is checked, given by number or by name.

* `Requirement.resolve` gives the constant that a requirement stands for.
-/

namespace Dialer.Tls

/-- A requirement as callers give it. -/
inductive Requirement
  | unstated
  | number (n : Int)
  | named (name : Text)

/-- What a requirement stands for. A name is that of a constant, in full or without `CERT_`. -/
def Requirement.resolve (constants : Text → Option Constant) : Requirement → Except Failure Constant
  | unstated => .ok (.number certificateRequired)
  | number n => .ok (.number n)
  | named name =>
    match (constants name).or (constants ("CERT_".toText ++ name)) with
    | some constant => .ok constant
    | none => .error (.unknownRequirement name)

end Dialer.Tls
