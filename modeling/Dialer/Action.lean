import Dialer.Environment

/-!
# Actions

An action runs in an environment, leaves events, changes the environment, and ends in a value or
a failure. What it did before a failure is not undone.

* `Action` is a monad: the events of a sequence are those of its parts in turn.
* `attempt` makes a failure a value. `onFailure` and `ensuring` clean up.
* `perform` leaves an event and ends in the fault that goes with it, if any.
-/

namespace Dialer

/-- What a run leaves behind. -/
structure Run (α : Type) where
  outcome : Except Failure α
  events : List Event
  environment : Environment

/-- An action with a value of type `α`. -/
def Action (α : Type) : Type := Environment → Run α

namespace Action

variable {α β : Type}

/-! ## Sequences -/

/-- The action that does nothing. -/
protected def pure (a : α) : Action α := fun p => ⟨.ok a, [], p⟩

/-- The action that does `x` and then, with its value, `f`. -/
protected def bind (x : Action α) (f : α → Action β) : Action β := fun p =>
  match x p with
  | ⟨.ok a, events, p⟩ =>
    let rest := f a p
    ⟨rest.outcome, events ++ rest.events, rest.environment⟩
  | ⟨.error e, events, p⟩ => ⟨.error e, events, p⟩

instance : Monad Action where
  pure := Action.pure
  bind := Action.bind

theorem pure_apply (a : α) (p : Environment) : (pure a : Action α) p = ⟨.ok a, [], p⟩ := rfl

theorem bind_apply (x : Action α) (f : α → Action β) (p : Environment) :
    (x >>= f) p =
      match x p with
      | ⟨.ok a, events, p⟩ => ⟨(f a p).outcome, events ++ (f a p).events, (f a p).environment⟩
      | ⟨.error e, events, p⟩ => ⟨.error e, events, p⟩ := rfl

theorem bind_of_ok {x : Action α} {f : α → Action β} {p q : Environment} {a : α}
    {events : List Event} (h : x p = ⟨.ok a, events, q⟩) :
    (x >>= f) p = ⟨(f a q).outcome, events ++ (f a q).events, (f a q).environment⟩ := by
  rw [bind_apply, h]

theorem id_map_action (x : Action α) : id <$> x = x := by
  funext p
  change Action.bind x Action.pure p = x p
  rcases h : x p with ⟨outcome, events, q⟩
  cases outcome <;> simp [Action.bind, Action.pure, h]

theorem bind_assoc_action {γ : Type} (x : Action α) (f : α → Action β) (g : β → Action γ) :
    (x >>= f) >>= g = x >>= fun a => f a >>= g := by
  funext p
  change Action.bind (Action.bind x f) g p = Action.bind x (fun a => Action.bind (f a) g) p
  rcases h : x p with ⟨outcome, events, q⟩
  cases outcome with
  | error e => simp [Action.bind, h]
  | ok a =>
    rcases h' : f a q with ⟨outcome', events', q'⟩
    cases outcome' <;> simp [Action.bind, h, h']

instance : LawfulMonad Action :=
  LawfulMonad.mk' Action id_map_action (fun _ _ => rfl) bind_assoc_action

/-! ## Elements -/

/-- Leaves an event. -/
def emit (e : Event) : Action Unit := fun p => ⟨.ok (), [e], p⟩

/-- Ends in a failure. -/
def fail (e : Failure) : Action α := fun p => ⟨.error e, [], p⟩

/-- The state of the environment. -/
def environment : Action Environment := fun p => ⟨.ok p, [], p⟩

/-- Changes the state of the environment. -/
def update (f : Environment → Environment) : Action Unit := fun p => ⟨.ok (), [], f p⟩

/-- The value of a computation, or its failure. -/
def ofExcept (x : Except Failure α) : Action α := fun p => ⟨x, [], p⟩

/-- Leaves an event and ends in a fault if there is one. -/
def perform (e : Event) (fault : Option Fault) : Action Unit := fun p =>
  ⟨match fault with
    | some f => .error (.fault f)
    | none => .ok (), [e], p⟩

/-! ## Failures -/

/-- Runs an action and hands over its failure as a value. -/
def attempt (x : Action α) : Action (Except Failure α) := fun p =>
  let run := x p
  ⟨.ok run.outcome, run.events, run.environment⟩

/-- Runs an action and, if it fails, `cleanUp` on its failure, which then stands unless cleaning up
fails too. -/
def onFailure (x : Action α) (cleanUp : Failure → Action Unit) : Action α := do
  match ← x.attempt with
  | .ok a => pure a
  | .error e =>
    cleanUp e
    fail e

/-- Runs an action and then `cleanUp`, whether it fails or not. The failure of `cleanUp` wins. -/
def ensuring (x : Action α) (cleanUp : Action Unit) : Action α := do
  let outcome ← x.attempt
  cleanUp
  ofExcept outcome

/-! ## Logging -/

/-- Reports a record to every sink, if the level admits it. -/
def report (level : Level) (logger : Logger) (message : Text) : Action Unit := fun p =>
  let record : Record := ⟨level, logger, message⟩
  ⟨.ok (), if p.logging.admits record then p.logging.sinks.map (Sink.write record) else [], p⟩

end Action

end Dialer
