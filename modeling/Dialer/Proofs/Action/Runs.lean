import Dialer.Operation
import Mathlib

/-!
# Runs of actions

A run of a sequence is made of runs of its parts.

* `bind_eq_ok_iff` takes the run of a sequence apart, and `onFailure_apply` that of an action with a
  clean-up.
* `Yields x values` says what values `x` may end in.
* `Keeps law x` says that every run of `x` obeys a law between the environment before it, its
  events and the environment after it, however it ends. A law that chains (`Chains`) is kept by a
  sequence if it is kept by the parts.
-/

namespace Dialer

/-- The run with its value changed. -/
def Run.map {α β : Type} (r : Run α) (f : α → β) : Run β :=
  ⟨r.outcome.map f, r.events, r.environment⟩

/-- The run with its value made into another, which may fail. -/
def Run.andThen {α β : Type} (r : Run α) (f : α → Except Failure β) : Run β :=
  ⟨r.outcome.bind f, r.events, r.environment⟩

/-- The run with events before it. -/
def Run.after {α : Type} (r : Run α) (events : List Event) : Run α :=
  { r with events := events ++ r.events }

theorem Run.events_after {α : Type} (r : Run α) (events : List Event) :
    (r.after events).events = events ++ r.events := rfl

namespace Action

variable {α β : Type} {p q : Environment} {events : List Event}

/-! ## Taking runs apart -/

theorem bind_eq_ok_iff {x : Action α} {f : α → Action β} {b : β} :
    (x >>= f) p = ⟨.ok b, events, q⟩ ↔ ∃ a before after middle,
      x p = ⟨.ok a, before, middle⟩ ∧ f a middle = ⟨.ok b, after, q⟩ ∧
        events = before ++ after := by
  rw [bind_apply]
  rcases x p with ⟨_ | a, before, middle⟩
  · simp
  · constructor
    · intro h
      obtain ⟨outcome, rfl, environment⟩ := Run.mk.inj h
      refine ⟨a, before, (f a middle).events, middle, rfl, ?_, rfl⟩
      rw [← outcome, ← environment]
    · rintro ⟨a', before', after, middle', first, rest, rfl⟩
      cases first
      simp [rest]

theorem map_apply (f : α → β) (x : Action α) (p : Environment) : (f <$> x) p = (x p).map f := by
  rw [map_eq_pure_bind, bind_apply]
  rcases x p with ⟨e | a, events, q⟩
  · rfl
  · simp [pure_apply, Run.map, Except.map]

theorem bind_ofExcept_apply (f : α → Except Failure β) (x : Action α) (p : Environment) :
    (x >>= fun a => ofExcept (f a)) p = (x p).andThen f := by
  rw [bind_apply]
  rcases x p with ⟨e | a, events, q⟩
  · rfl
  · simp [ofExcept, Run.andThen, Except.bind]

theorem attempt_apply (x : Action α) :
    x.attempt p = ⟨.ok (x p).outcome, (x p).events, (x p).environment⟩ := rfl

/-- What cleaning up adds to a run. -/
theorem onFailure_apply (x : Action α) (cleanUp : Failure → Action Unit) :
    x.onFailure cleanUp p =
      match x p with
      | ⟨.ok a, events, q⟩ => ⟨.ok a, events, q⟩
      | ⟨.error e, events, q⟩ =>
        ⟨match (cleanUp e q).outcome with
          | .ok () => .error e
          | .error e' => .error e', events ++ (cleanUp e q).events, (cleanUp e q).environment⟩ := by
  rw [onFailure, bind_apply, attempt_apply]
  rcases x p with ⟨e | a, events, q⟩
  · dsimp only
    rw [bind_apply]
    rcases cleanUp e q with ⟨e' | ⟨⟩, after, r⟩
    · rfl
    · simp [fail]
  · simp [pure_apply]

/-! ## Values -/

/-- Whatever value the action ends in is one of these. -/
def Yields (x : Action α) (values : α → Prop) : Prop := ∀ p a, (x p).outcome = .ok a → values a

section

variable {values : β → Prop}

theorem Yields.pure {b : β} (h : values b) : Yields (pure b : Action β) values := by
  intro p a outcome
  exact Except.ok.inj outcome ▸ h

/-- The values of a sequence are those of its last part. -/
theorem Yields.bind {x : Action α} {f : α → Action β} (h : ∀ a, Yields (f a) values) :
    Yields (x >>= f) values := by
  intro p b outcome
  rw [bind_apply] at outcome
  rcases run : x p with ⟨e | a, events, q⟩
  · rw [run] at outcome
    cases outcome
  · rw [run] at outcome
    exact h a q b outcome

theorem Yields.ite_bind {c : Prop} [Decidable c] {x : Action Unit} {rest : Unit → Action β}
    (h : ∀ u, Yields (rest u) values) : Yields (if c then x >>= rest else rest ()) values := by
  split
  · exact Yields.bind h
  · exact h ()

end

/-! ## Laws of runs -/

/-- Every run of the action obeys the law. -/
def Keeps (law : Environment → List Event → Environment → Prop) (x : Action α) : Prop :=
  ∀ p, law p (x p).events (x p).environment

/-- The law holds of doing nothing, and of doing two things in turn if it holds of both. -/
structure Chains (law : Environment → List Event → Environment → Prop) : Prop where
  nil : ∀ p, law p [] p
  append : ∀ {p q r before after}, law p before q → law q after r → law p (before ++ after) r

section

variable {law : Environment → List Event → Environment → Prop}

theorem Keeps.attempt {x : Action α} (hx : Keeps law x) : Keeps law x.attempt := hx

variable (chains : Chains law)

include chains

theorem Keeps.pure (a : α) : Keeps law (pure a : Action α) := chains.nil

theorem Keeps.bind {x : Action α} {f : α → Action β} (hx : Keeps law x)
    (hf : ∀ a, Keeps law (f a)) : Keeps law (x >>= f) := by
  intro p
  have first := hx p
  rw [bind_apply]
  rcases run : x p with ⟨e | a, events, q⟩
  · rw [run] at first
    exact first
  · rw [run] at first
    exact chains.append first (hf a q)

/-- A step that is taken under a condition. -/
theorem Keeps.ite_bind {c : Prop} [Decidable c] {x : Action Unit} {rest : Unit → Action α}
    (hx : Keeps law x) (hr : ∀ u, Keeps law (rest u)) :
    Keeps law (if c then x >>= rest else rest ()) := by
  split
  · exact Keeps.bind chains hx hr
  · exact hr ()

theorem Keeps.fail (e : Failure) : Keeps law (fail e : Action α) := chains.nil

theorem Keeps.environment : Keeps law environment := chains.nil

theorem Keeps.ofExcept (x : Except Failure α) : Keeps law (ofExcept x) := chains.nil

theorem Keeps.onFailure {x : Action α} {cleanUp : Failure → Action Unit} (hx : Keeps law x)
    (hc : ∀ e, Keeps law (cleanUp e)) : Keeps law (x.onFailure cleanUp) := by
  refine Keeps.bind chains hx fun outcome => ?_
  rcases outcome with e | a
  · exact Keeps.bind chains (hc e) fun _ => Keeps.fail chains e
  · exact Keeps.pure chains a

/-- A law that single events obey is obeyed by what logging leaves. -/
theorem Keeps.report (level : Level) (logger : Logger) (message : Text)
    (h : ∀ p (sink : Sink), law p [sink.write ⟨level, logger, message⟩] p) :
    Keeps law (report level logger message) := by
  intro p
  simp only [Action.report]
  split
  · induction p.logging.sinks with
    | nil => exact chains.nil p
    | cons sink sinks ih => exact chains.append (h p sink) ih
  · exact chains.nil p

theorem Keeps.forM_option {f : α → Action Unit} (h : ∀ a, Keeps law (f a)) (o : Option α) :
    Keeps law (o.forM f) := by
  cases o with
  | none => exact Keeps.pure chains ()
  | some a => exact h a

end

end Action

end Dialer
