import Dialer.Proofs.Resolver.Histories
import Dialer.Session

/-!
# Sessions as programs

A session has one resolver and knows factories and contexts by name. Behind it stands a program that
does the same.

* `Step.call?` is the call that a step of a session amounts to. Steps that only look things up by
  name or are about targets and logging amount to none.
* `Session.advance_of_call?` says that the step does what the call does, and
  `Session.run_events_of_calls?` the same of a whole run.
-/

namespace Dialer

open Dialer.Action

/-! ## Calls behind steps -/

/-- The assignment to an override that a field and a name stand for in a session. -/
def Session.assignment (s : Session) (name : Option Text) : Field → Assignment
  | .plainFactory => .plainFactory (name.bind s.factory?)
  | .tlsFactory => .tlsFactory (name.bind s.factory?)
  | .context => .context (name.bind s.context?)

/-- The call that a step of a session amounts to, on the resolver with the number zero. -/
def Step.call? (s : Session) (p : Environment) : Step → Option Call
  | .resolve reference => some (.resolve 0 reference)
  | .assign field name => some (.assign 0 (s.assignment name field))
  | .select secure => some (.select 0 secure)
  | .askDefault secure => some (.askDefault secure)
  | .createSocket name host port => (s.factory? name).map (.createSocket · host port)
  | .replacePlatform platform => some (.surround p.network platform)
  | .replaceNetwork network => some (.surround network p.platform)
  | _ => none

/-- The program behind a session in an environment, among whose resolvers is that of the session. -/
def Program.Behind (program : Program) (s : Session) (p : Environment) : Prop :=
  program.encode = s.encode ∧ program.resolvers 0 = s.overrides ∧ program.environment = p

/-! ## Single steps -/

namespace Session

variable {s : Session} {p : Environment} {step : Step} {call : Call} {program : Program}

theorem overrides_assign (s : Session) (field : Field) (name : Option Text) :
    (s.assign field name).overrides = s.overrides.assign (s.assignment name field) := by
  cases field <;> rfl

/-- A step that only shows what an action gives does what a call of that action does. -/
theorem advance_of_bind {α : Type} {x : Action α} {f : α → Action (Session × Answer)}
    {g : α → Value} (behind : program.Behind s p) (run : step.run s = x >>= f)
    (shows : ∀ a q, ∃ next answer, f a q = ⟨.ok (next, answer), [], q⟩ ∧
      next.encode = s.encode ∧ next.overrides = s.overrides)
    (action : program.action call = g <$> x)
    (still : program.resolversAfter call = program.resolvers) :
    (s.advance p step).1.events = (Moment.run ⟨program, call⟩).events ∧
      (Moment.after ⟨program, call⟩).Behind (s.advance p step).2.1 (s.advance p step).2.2 := by
  obtain ⟨uses, first, rfl⟩ := behind
  rw [Program.Behind, Moment.after, Moment.run, still, action, uses, first, advance, run,
    bind_apply, map_apply]
  rcases x program.environment with ⟨e | a, events, q⟩
  · exact ⟨rfl, rfl, rfl, rfl⟩
  · obtain ⟨next, answer, shown, same, kept⟩ := shows a q
    simp only [shown, List.append_nil]
    exact ⟨rfl, same.symm, kept.symm, rfl⟩

/-- **A step of a session that amounts to a call does what the call does.** -/
theorem advance_of_call? (behind : program.Behind s p) (h : step.call? s p = some call) :
    (s.advance p step).1.events = (Moment.run ⟨program, call⟩).events ∧
      (Moment.after ⟨program, call⟩).Behind (s.advance p step).2.1 (s.advance p step).2.2 := by
  have showing (f : Factory) (q : Environment) : ∃ next answer,
      s.showFactory f q = ⟨.ok (next, answer), [], q⟩ ∧ next.encode = s.encode ∧
        next.overrides = s.overrides :=
    ⟨s, _, rfl, rfl, rfl⟩
  cases step with
  | resolve r =>
    obtain rfl := Option.some.inj h
    refine advance_of_bind (g := .target) behind
      (map_eq_pure_bind s.handOut (Dialer.resolve s.encode s.overrides r))
      (fun t q => ⟨_, _, rfl, rfl, rfl⟩) ?_ rfl
    rw [Program.action, behind.1, behind.2.1]
  | assign field name =>
    obtain rfl := Option.some.inj h
    obtain ⟨uses, first, rfl⟩ := behind
    refine ⟨rfl, ?_, ?_, rfl⟩
    · cases field <;> exact uses
    change program.resolversAfter (.assign 0 (s.assignment name field)) 0 =
      (s.assign field name).overrides
    rw [Program.resolversAfter, Function.update_self, first, overrides_assign]
  | select secure =>
    obtain rfl := Option.some.inj h
    refine advance_of_bind (g := .factory) behind rfl showing ?_ rfl
    rw [Program.action, behind.2.1]
  | askDefault secure =>
    obtain rfl := Option.some.inj h
    exact advance_of_bind behind rfl showing rfl rfl
  | createSocket name host port =>
    obtain ⟨f, known, rfl⟩ := Option.map_eq_some_iff.mp h
    refine advance_of_bind (f := fun socket => pure (s, .socket socket)) behind ?_
      (fun socket q => ⟨s, _, rfl, rfl, rfl⟩) rfl rfl
    simp only [Step.run, known]
  | replacePlatform platform =>
    obtain rfl := Option.some.inj h
    obtain ⟨uses, first, rfl⟩ := behind
    exact ⟨rfl, uses, first, rfl⟩
  | replaceNetwork network =>
    obtain rfl := Option.some.inj h
    obtain ⟨uses, first, rfl⟩ := behind
    exact ⟨rfl, uses, first, rfl⟩
  | _ => cases h

/-! ## Whole runs -/

/-- The calls that the steps of a session amount to, if each of them amounts to one. -/
def calls? (s : Session) (p : Environment) : List Step → Option (List Call)
  | [] => some []
  | step :: steps => do
    let call ← step.call? s p
    let calls ← (s.advance p step).2.1.calls? (s.advance p step).2.2 steps
    return call :: calls

/-- **A session is a program.** Its steps do what the moments of the history of their calls do. -/
theorem run_events_of_calls? {steps : List Step} {calls : List Call} (behind : program.Behind s p)
    (h : s.calls? p steps = some calls) :
    (s.run p steps).map Report.events = (program.history calls).map (·.run.events) := by
  induction steps generalizing s p program calls with
  | nil =>
    obtain rfl := Option.some.inj h
    rfl
  | cons step steps ih =>
    simp only [calls?, Option.bind_eq_bind, Option.bind_eq_some_iff] at h
    obtain ⟨call, first, rest, later, same⟩ := h
    obtain rfl := Option.some.inj same
    obtain ⟨events, behind⟩ := advance_of_call? behind first
    rw [Program.history_cons, List.map_cons, ← ih behind later, ← events]
    rfl

end Session

end Dialer
