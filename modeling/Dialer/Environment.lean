import Dialer.Event

/-!
# Environments

What a running program has around it and what it has done so far, as far as later steps depend on
it.
-/

namespace Dialer

/-- The place where a factory keeps the TLS context that it builds on demand. -/
inductive Slot
  /-- The place of the process-wide factory. -/
  | processWide
  /-- The place of a factory of the caller's. -/
  | own (number : Nat)
  deriving DecidableEq

/-- The state in which actions run. -/
structure Environment where
  network : Network
  platform : TlsPlatform
  logging : Logging
  /-- The number of sockets created. -/
  sockets : Nat := 0
  /-- The number of contexts whose creation has been attempted. -/
  contexts : Nat := 0
  /-- The number of process-wide factories created. -/
  factories : Nat := 0
  /-- The process-wide factories for TLS and for plain connections, by number, if they have been
  created. -/
  processWide : Bool → Option Nat := fun _ => none
  /-- The contexts built on demand. -/
  held : Slot → Option Context := fun _ => none

/-- The environment in which one more process-wide factory has been created, the one for TLS or
plain connections. -/
def Environment.createDefault (p : Environment) (secure : Bool) : Environment :=
  { p with
    factories := p.factories + 1
    processWide :=
      fun kind => if kind = secure then some (p.factories + 1) else p.processWide kind }

/-- The environment with a context in a slot. -/
def Environment.hold (p : Environment) (slot : Slot) (context : Context) : Environment :=
  { p with held := fun other => if other = slot then some context else p.held other }

theorem Environment.held_hold (p : Environment) (slot : Slot) (context : Context) :
    (p.hold slot context).held slot = some context := if_pos rfl

theorem Environment.held_hold_of_ne (p : Environment) {slot other : Slot} (context : Context)
    (h : other ≠ slot) : (p.hold slot context).held other = p.held other := if_neg h

end Dialer
