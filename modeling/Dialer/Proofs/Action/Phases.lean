import Dialer.Proofs.Action.Runs

/-!
# Phases of events

What an event is about tells which part of the work leaves it.

* `Event.phase` sorts events. `Within phases` is the law that all events are of these phases.
* `Steady` is the law that sockets and everything around the program stay as they are.
-/

namespace Dialer

/-- What events are about. -/
inductive Phase
  | lookup
  /-- The life of a single socket, up to its end. -/
  | socket
  /-- The building of a TLS context. -/
  | context
  | handshake
  /-- A request to a factory of the caller's. -/
  | request
  | report
  deriving DecidableEq

/-- What the event is about. -/
def Event.phase : Event → Phase
  | lookup .. => .lookup
  | openSocket .. | setOption .. | setTimeout .. | bind .. | connect .. | close _ => .socket
  | newContext _ | assign .. | setCiphers .. | loadAuthorities .. => .context
  | wrap .. => .handshake
  | createSocket .. => .request
  | log _ | stderr _ => .report

theorem Sink.write_phase (sink : Sink) (r : Record) : (sink.write r).phase = .report := by
  cases sink <;> rfl

namespace Action

variable {α : Type}

/-! ## Laws -/

/-- All events are of the phases. -/
def Within (phases : List Phase) (_ : Environment) (events : List Event) (_ : Environment) : Prop :=
  ∀ e ∈ events, e.phase ∈ phases

/-- No socket is created, and what is around the program stays the same. -/
structure Steady (p : Environment) (_ : List Event) (q : Environment) : Prop where
  sockets : q.sockets = p.sockets
  network : q.network = p.network
  platform : q.platform = p.platform
  logging : q.logging = p.logging

theorem chains_within (phases : List Phase) : Chains (Within phases) where
  nil _ _ h := absurd h List.not_mem_nil
  append before after e h := by
    rcases List.mem_append.mp h with h | h
    · exact before e h
    · exact after e h

theorem Keeps.within_mono {phases more : List Phase} {x : Action α} (h : Keeps (Within phases) x)
    (hs : phases ⊆ more) : Keeps (Within more) x :=
  fun p e he => hs (h p e he)

theorem chains_steady : Chains Steady where
  nil _ := ⟨rfl, rfl, rfl, rfl⟩
  append before after :=
    ⟨after.sockets.trans before.sockets, after.network.trans before.network,
      after.platform.trans before.platform, after.logging.trans before.logging⟩

theorem keeps_perform_within {phases : List Phase} {e : Event} (fault : Option Fault)
    (h : e.phase ∈ phases) : Keeps (Within phases) (perform e fault) := by
  intro p e' he'
  rwa [List.mem_singleton.mp he']

theorem keeps_perform_steady (e : Event) (fault : Option Fault) :
    Keeps Steady (perform e fault) := fun _ => ⟨rfl, rfl, rfl, rfl⟩

theorem keeps_report_within {phases : List Phase} (h : .report ∈ phases) (level : Level)
    (logger : Logger) (message : Text) :
    Keeps (Within phases) (report level logger message) := by
  refine Keeps.report (chains_within phases) level logger message fun p sink e he => ?_
  rwa [List.mem_singleton.mp he, Sink.write_phase]

theorem report_apply (level : Level) (logger : Logger) (message : Text) (p : Environment) :
    ∃ reports, report level logger message p = ⟨.ok (), reports, p⟩ ∧
      ∀ e ∈ reports, e.phase = .report := by
  refine ⟨_, rfl, fun e he => ?_⟩
  have within := keeps_report_within (List.mem_singleton_self _) level logger message p
  exact List.mem_singleton.mp (within e he)

end Action

end Dialer
