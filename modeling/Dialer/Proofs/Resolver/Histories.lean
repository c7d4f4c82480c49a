import Dialer.Proofs.Resolver.Defaults

/-!
# Histories of calls

A program has any number of resolvers, whose overrides it reassigns between calls, and shares the
process-wide factories among them. A session is such a program with one resolver.

* `Call` is what a program may do, and `Program.action` does it. What is around the program may
  change between any two calls, so that each call may fail in its own way.
* `Program.history` are the moments of a run over calls, each with the program before and after it.
* `Moment.selected?` is the factory that is selected in a moment, and `Moment.dialled?` the one that
  is dialled through. `Moment.Reaches` says that the moment comes down to a process-wide factory.
* `Program.forall_mem_history` carries what every call preserves through a history.
-/

namespace Dialer

open Dialer.Action

/-! ## Calls -/

/-- An assignment to one of the overrides of a resolver. -/
inductive Assignment
  | plainFactory (factory : Option Factory)
  | tlsFactory (factory : Option Factory)
  | context (context : Option Context)

/-- The overrides after an assignment. -/
def Overrides.assign (o : Overrides) : Assignment → Overrides
  | .plainFactory factory => { o with plainFactory := factory }
  | .tlsFactory factory => { o with tlsFactory := factory }
  | .context context => { o with context }

/-- What a program may do. -/
inductive Call
  | resolve (resolver : Nat) (reference : Reference)
  | assign (resolver : Nat) (assignment : Assignment)
  | select (resolver : Nat) (secure : Bool)
  /-- Asks for the process-wide factory for TLS or plain connections. -/
  | askDefault (secure : Bool)
  | createSocket (factory : Factory) (host : Text) (port : Int)
  /-- What is around the program becomes another, and with it what fails from now on. -/
  | surround (network : Network) (platform : TlsPlatform)

/-- What a call gives. -/
inductive Value
  | nothing
  | target (t : Target)
  | factory (f : Factory)
  | socket (s : Socket)

/-- A program between two calls: the encoding that it uses, the overrides of its resolvers, and the
environment. -/
structure Program where
  /-- How host names are encoded. -/
  encode : HostEncoding
  resolvers : Nat → Overrides
  environment : Environment

namespace Program

/-- Does a call. -/
def action (s : Program) : Call → Action Value
  | .resolve resolver reference =>
    Value.target <$> Dialer.resolve s.encode (s.resolvers resolver) reference
  | .assign _ _ => pure .nothing
  | .select resolver secure => Value.factory <$> (s.resolvers resolver).select secure
  | .askDefault secure => Value.factory <$> defaultFactory secure
  | .createSocket factory host port => Value.socket <$> factory.createSocket host port
  | .surround network platform => do
    update fun p => { p with network, platform }
    return .nothing

/-- The overrides of the resolvers after a call, which assignments alone change. -/
def resolversAfter (s : Program) : Call → Nat → Overrides
  | .assign resolver assignment =>
    Function.update s.resolvers resolver ((s.resolvers resolver).assign assignment)
  | _ => s.resolvers

end Program

/-! ## Moments -/

/-- A call of a program. -/
structure Moment where
  before : Program
  call : Call

namespace Moment

/-- The run of the call. -/
def run (m : Moment) : Run Value := m.before.action m.call m.before.environment

/-- The program after the call. -/
def after (m : Moment) : Program where
  encode := m.before.encode
  resolvers := m.before.resolversAfter m.call
  environment := m.run.environment

/-- The factory that is selected in the call, if one is. A refused reference selects none. -/
def selected? (m : Moment) : Option Factory :=
  let p := m.before.environment
  match m.call with
  | .resolve resolver reference =>
    (Endpoint.ofReference m.before.encode reference).toOption.bind fun e =>
      ((m.before.resolvers resolver).select e.secure p).outcome.toOption
  | .select resolver secure => ((m.before.resolvers resolver).select secure p).outcome.toOption
  | .askDefault secure => (defaultFactory secure p).outcome.toOption
  | _ => none

/-- The factory that the call dials through, if it dials. -/
def dialled? (m : Moment) : Option Factory :=
  match m.call with
  | .resolve _ _ => m.selected?
  | .createSocket factory _ _ => some factory
  | _ => none

/-- The call comes down to the process-wide factory of a kind. -/
def Reaches (m : Moment) (secure : Bool) : Prop :=
  match m.call with
  | .resolve resolver reference => ∃ e, Endpoint.ofReference m.before.encode reference = .ok e ∧
    e.secure = secure ∧ (m.before.resolvers resolver).lacks secure = true
  | .select resolver kind => kind = secure ∧ (m.before.resolvers resolver).lacks secure = true
  | .askDefault kind => kind = secure
  | _ => False

/-- The call creates the process-wide factory of a kind. -/
def creates (m : Moment) (secure : Bool) : Bool :=
  !m.before.environment.hasDefault secure && m.after.environment.hasDefault secure

/-- The call dials through a factory that keeps its context in the slot. -/
def DialsThrough (m : Moment) (slot : Slot) : Prop :=
  ∃ f settings, m.dialled? = some f ∧ f.opener = .tls settings (.onDemand slot)

end Moment

/-! ## Runs -/

/-- The moments of a run over calls. -/
def Program.history : Program → List Call → List Moment
  | _, [] => []
  | s, call :: calls =>
    let m : Moment := ⟨s, call⟩
    m :: m.after.history calls

namespace Program

theorem history_cons (s : Program) (call : Call) (calls : List Call) :
    s.history (call :: calls) = ⟨s, call⟩ :: (Moment.after ⟨s, call⟩).history calls := rfl

/-- Each moment begins where the one before it ends. -/
theorem isChain_history (s : Program) (calls : List Call) :
    (s.history calls).IsChain fun m next => m.after = next.before := by
  induction calls generalizing s with
  | nil => exact .nil
  | cons call calls ih =>
    cases calls with
    | nil => exact .singleton _
    | cons next calls => exact .cons_cons rfl (ih _)

/-- **What every call preserves** holds throughout a history that begins with it. -/
theorem forall_mem_history (invariant : Program → Prop)
    (step : ∀ m : Moment, invariant m.before → invariant m.after) {s : Program}
    (start : invariant s) (calls : List Call) : ∀ m ∈ s.history calls, invariant m.before := by
  induction calls generalizing s with
  | nil => exact fun _ h => absurd h List.not_mem_nil
  | cons call calls ih =>
    intro m hm
    rw [history_cons, List.mem_cons] at hm
    rcases hm with rfl | hm
    · exact start
    · exact ih (step ⟨s, call⟩ start) m hm

end Program

end Dialer
