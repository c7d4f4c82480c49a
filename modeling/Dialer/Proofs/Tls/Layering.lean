import Dialer.Proofs.Tls.OnDemand

/-!
# TLS over plain connections

A TLS factory connects as a plain factory of the same settings does. All that it adds is the
context, before it connects, and the handshake, after it has connected.

* `alike_connect` says that a connection depends on the network and the number of sockets only, so
  that the building of a context makes no difference to it.
* `ContextSource.Gives` says what getting hold of a context costs, and `Layered` how a socket with
  TLS is opened in terms of how a plain one is. `layered_createSocket` says that it is.
-/

namespace Dialer

open Dialer.Action

variable {p q : Environment} {settings : ConnectSettings} {host : Text} {port : Int}

/-! ## Log records aside -/

/-- The events that are no reports. -/
def silent (events : List Event) : List Event := events.filter (·.phase ≠ .report)

theorem silent_append (before after : List Event) :
    silent (before ++ after) = silent before ++ silent after := List.filter_append before after

theorem silent_eq_nil {events : List Event} (h : ∀ e ∈ events, e.phase = .report) :
    silent events = [] :=
  List.filter_eq_nil_iff.mpr fun e he => by simp [h e he]

theorem silent_eq_self {events : List Event} (h : ∀ e ∈ events, e.phase ≠ .report) :
    silent events = events :=
  List.filter_eq_self.mpr fun e he => by simp [h e he]

/-! ## Connections -/

/-- The runs end in the same way and leave the same events. -/
structure Run.Alike {α : Type} (r r' : Run α) : Prop where
  outcome : r.outcome = r'.outcome
  events : r.events = r'.events

theorem Run.Alike.after {α : Type} {r r' : Run α} (h : r.Alike r') (events : List Event) :
    (r.after events).Alike (r'.after events) :=
  ⟨h.outcome, congrArg (events ++ ·) h.events⟩

theorem alike_tryEntries (last : Failure) (entries : List Entry) (sockets : q.sockets = p.sockets) :
    (tryEntries settings last entries q).Alike (tryEntries settings last entries p) := by
  induction entries generalizing last p q with
  | nil => exact ⟨rfl, rfl⟩
  | cons entry entries ih =>
    have socket : entry.socket q = entry.socket p := by rw [Entry.socket, sockets, Entry.socket]
    have events : entry.events settings q = entry.events settings p := by
      rw [Entry.events, socket, sockets, Entry.events]
    have counted : q.withSocket.sockets = p.withSocket.sockets := congrArg (· + 1) sockets
    rw [tryEntries_cons, tryEntries_cons, socket, events, sockets]
    cases entry.faults .create with
    | some f =>
      dsimp only
      split
      · exact (ih (.fault f) sockets).after _
      · exact ⟨rfl, rfl⟩
    | none =>
      cases ((entry.socket p).plan settings).fault? with
      | none => exact ⟨rfl, rfl⟩
      | some f =>
        dsimp only
        split
        · cases entry.faults .close with
          | none => exact (ih (.fault f) counted).after _
          | some g => exact ⟨rfl, rfl⟩
        · exact ⟨rfl, rfl⟩

/-- **A connection depends on the network and the number of sockets only.** -/
theorem alike_connect (network : q.network = p.network) (sockets : q.sockets = p.sockets) :
    (connect settings host port q).Alike (connect settings host port p) := by
  rw [connect_apply, connect_apply, network]
  cases p.network (Host.unbracketed host) port with
  | found entries => exact (alike_tryEntries .noAddress entries sockets).after _
  | failed f => exact ⟨rfl, rfl⟩

theorem silent_connect :
    silent (connect settings host port p).events = (connect settings host port p).events :=
  silent_eq_self fun e he => by
    rcases connect_phase settings host port p e he with h | h <;> simp [h]

/-! ## Contexts -/

/-- The context that a TLS factory gets hold of, and the events that this costs. -/
inductive ContextSource.Gives (source : ContextSource) (p : Environment) :
    Context → List Event → Prop
  | present {c} (present : source.present? p = some c) : Gives source p c []
  | built {c build q} (vacant : source.present? p = none)
      (attempt : Tls.buildContext {} p = ⟨.ok c, build, q⟩) : Gives source p c build

theorem silent_built {outcome : Except Failure Context} {reports build : List Event}
    (only : ∀ e ∈ reports, e.phase = .report)
    (attempt : Tls.buildContext {} p = ⟨outcome, build, q⟩) :
    silent (reports ++ build) = build := by
  rw [silent_append, silent_eq_nil only, List.nil_append]
  exact silent_eq_self fun e he => by simp [phase_of_buildContext attempt e he]

theorem gives_context {source : ContextSource} {c : Context} {events : List Event}
    (context : source.context p = ⟨.ok c, events, q⟩) : source.Gives p c (silent events) := by
  cases source with
  | given c' =>
    cases context
    exact .present rfl
  | onDemand slot =>
    have provision := provision_context slot p
    rw [context] at provision
    cases provision with
    | held held => exact .present held
    | built vacant only attempt =>
      rw [silent_built only attempt]
      exact .built vacant attempt

theorem vacant_of_context {source : ContextSource} {e : Failure} {events : List Event}
    (context : source.context p = ⟨.error e, events, q⟩) :
    source.present? p = none ∧ Tls.buildContext {} p = ⟨.error e, silent events, q⟩ := by
  cases source with
  | given c => cases context
  | onDemand slot =>
    have provision := provision_context slot p
    rw [context] at provision
    cases provision with
    | failed vacant only attempt =>
      rw [silent_built only attempt]
      exact ⟨vacant, attempt⟩

/-- Getting hold of a context makes no difference to the connection after it. -/
theorem connect_of_context {source : ContextSource} {c : Context} {built dialled : List Event}
    {r : Environment} {outcome : Except Failure RawSocket}
    (context : source.context p = ⟨.ok c, built, q⟩)
    (connected : connect settings host port q = ⟨outcome, dialled, r⟩) :
    (connect settings host port p).outcome = outcome ∧
      (connect settings host port p).events = dialled ∧ r.platform = p.platform := by
  have steady := keeps_context_steady source p
  obtain ⟨n, counted⟩ := connect_environment settings host port q
  rw [context] at steady
  have same : Run.Alike (connect settings host port q) (connect settings host port p) :=
    alike_connect steady.network steady.sockets
  rw [connected] at counted same
  exact ⟨same.outcome.symm, same.events.symm,
    (congrArg Environment.platform counted).trans steady.platform⟩

/-! ## Sockets -/

/-- How a socket with TLS is opened, log records aside, where `plain` is the opening of a plain one:
what it ends in, and its events. -/
inductive Layered (source : ContextSource) (host : Text) (p : Environment) (plain : Run Socket) :
    Except Failure Socket → List Event → Prop
  /-- Nothing is dialled without a context. -/
  | unbuilt {e build q} (vacant : source.present? p = none)
      (attempt : Tls.buildContext {} p = ⟨.error e, build, q⟩) :
      Layered source host p plain (.error e) build
  | unconnected {c built e} (context : source.Gives p c built) (failed : plain.outcome = .error e) :
      Layered source host p plain (.error e) (built ++ plain.events)
  | wrapped {c built raw} (context : source.Gives p c built)
      (connected : plain.outcome = .ok (.plain raw)) (handshake : c.wrapFault p.platform = none) :
      Layered source host p plain (.ok (.tls raw))
        (built ++ plain.events ++ [.wrap c.name raw.number (some (Host.unbracketed host))])
  /-- The socket is closed, and no other address is tried. -/
  | unwrapped {c built raw f} (context : source.Gives p c built)
      (connected : plain.outcome = .ok (.plain raw)) (handshake : c.wrapFault p.platform = some f) :
      Layered source host p plain (.error (.fault ((raw.faults .close).getD f)))
        (built ++ plain.events ++ [.wrap c.name raw.number (some (Host.unbracketed host)),
          .close (.plain raw.number)])

/-- **A TLS factory dials as a plain factory of the same settings does**, whatever the network and
the platform do. -/
theorem layered_createSocket (origin origin' : Origin) (settings : ConnectSettings)
    (source : ContextSource) (host : Text) (port : Int) (p : Environment) :
    Layered source host p (Factory.createSocket ⟨origin, .plain settings⟩ host port p)
      (Factory.createSocket ⟨origin', .tls settings source⟩ host port p).outcome
      (silent (Factory.createSocket ⟨origin', .tls settings source⟩ host port p).events) := by
  rw [createSocket_plain, createSocket_tls rfl]
  have creation := tlsCreation_createTlsSocket settings source host port p
  generalize createTlsSocket settings source host port p = run at creation ⊢
  have stages (built steps : List Event) :
      silent (built ++ ((connect settings host port p).events ++ steps)) =
        silent built ++ (connect settings host port p).events ++ silent steps := by
    rw [silent_append, silent_append, silent_connect, List.append_assoc]
  cases creation with
  | noContext context =>
    obtain ⟨vacant, attempt⟩ := vacant_of_context context
    exact .unbuilt vacant attempt
  | unconnected context connected =>
    obtain ⟨failed, rfl, -⟩ := connect_of_context context connected
    rw [silent_append, silent_connect]
    refine .unconnected (gives_context context) ?_
    exact congrArg (Except.map Socket.plain) failed
  | wrapped context connected handshake =>
    obtain ⟨made, rfl, platform⟩ := connect_of_context context connected
    rw [platform] at handshake
    rw [stages]
    refine .wrapped (gives_context context) ?_ handshake
    exact congrArg (Except.map Socket.plain) made
  | unwrapped context connected handshake only =>
    obtain ⟨made, rfl, platform⟩ := connect_of_context context connected
    rw [platform] at handshake
    rw [stages, silent_append, silent_eq_nil only, List.append_nil]
    refine .unwrapped (gives_context context) ?_ handshake
    exact congrArg (Except.map Socket.plain) made

end Dialer
