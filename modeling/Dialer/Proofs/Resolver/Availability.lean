import Dialer.Proofs.Connect.FirstSuccess
import Dialer.Proofs.Resolver.Ownership
import Dialer.Proofs.Tls.Building

/-!
# Available endpoints

Which endpoints can be dialled, told from the network and the platform alone. All that fails around
the program fails with a fault of the operating system here, and sockets always close.

* `Available` says that the lookup finds an address that can be connected and, for TLS, that the
  platform builds a default context and makes the handshake (`TlsPlatform.Serves`).
* `Run.Hinges` says that a run succeeds if a condition holds, and fails by the fault of the
  operating system if it does not. `hinges_connect`, `hinges_context` and `hinges_createTlsSocket`
  say what each stage hinges on, and `hinges_dial` that a dial hinges on whether the endpoint is
  available.
-/

namespace Dialer

open Dialer.Action

/-! ## Faults of the operating system -/

/-- Lookups and sockets fail with faults of the operating system only, and sockets always close. A
lookup for a port that cannot be written may fail in any way. -/
structure Network.SystemFaultsOnly (network : Network) : Prop where
  lookups : ∀ host port f, canWritePort (some port) = true → network host port = .failed f →
    f.kind.isA .os = true
  sockets : network.Recoverable

/-- TLS contexts and handshakes fail with faults of the operating system only. -/
def TlsPlatform.SystemFaultsOnly (platform : TlsPlatform) : Prop :=
  ∀ step f, platform.faults step = some f → f.kind.isA .os = true

/-! ## Conditions -/

/-- The lookup of a name finds an address at which no step fails. -/
def Network.Reaches (network : Network) (settings : ConnectSettings) (host : Text) (port : Int) :
    Prop :=
  ∃ entries, network (Host.unbracketed host) port = .found entries ∧
    ∃ entry ∈ entries, entry.connects settings = true

/-- A default context can be built. -/
structure TlsPlatform.Builds (platform : TlsPlatform) : Prop where
  setUp : platform.setUpFault? = none
  authorities : platform.faults .authorities = none

/-- A default context can be built, and the handshake with it succeeds. -/
structure TlsPlatform.Serves (platform : TlsPlatform) : Prop extends platform.Builds where
  handshake : platform.faults .wrap = none

/-- The endpoint can be dialled. -/
structure Available (network : Network) (platform : TlsPlatform) (settings : ConnectSettings)
    (e : Endpoint) : Prop where
  reaches : network.Reaches settings e.host e.port
  serves : e.secure = true → platform.Serves

/-! ## Runs that hinge on a condition -/

/-- The run succeeds, with one of the values, if the condition holds. If it does not, the run fails,
and the operating system is at fault. -/
structure Run.Hinges {α : Type} (run : Run α) (condition : Prop) (values : α → Prop) : Prop where
  ok : ∀ a, run.outcome = .ok a → condition ∧ values a
  error : ∀ e, run.outcome = .error e → ¬ condition ∧ e.isOs = true

section

variable {α β : Type} {run : Run α} {condition condition' : Prop} {values : α → Prop}

theorem Run.Hinges.of_ok {a : α} (outcome : run.outcome = .ok a) (holds : condition)
    (value : values a) : run.Hinges condition values := by
  refine ⟨fun b same => ⟨holds, ?_⟩, fun e failed => ?_⟩
  · obtain rfl := Except.ok.inj (outcome.symm.trans same)
    exact value
  · cases outcome.symm.trans failed

theorem Run.Hinges.of_error {e : Failure} (outcome : run.outcome = .error e) (fails : ¬ condition)
    (os : e.isOs = true) : run.Hinges condition values := by
  refine ⟨fun b ok => ?_, fun e' same => ⟨fails, ?_⟩⟩
  · cases outcome.symm.trans ok
  · obtain rfl := Except.error.inj (outcome.symm.trans same)
    exact os

theorem Run.Hinges.exists_ok (h : run.Hinges condition values) (holds : condition) :
    ∃ a, run.outcome = .ok a ∧ values a := by
  cases outcome : run.outcome with
  | ok a => exact ⟨a, rfl, (h.ok a outcome).2⟩
  | error e => exact absurd holds (h.error e outcome).1

theorem Run.Hinges.exists_error (h : run.Hinges condition values) (fails : ¬ condition) :
    ∃ e, run.outcome = .error e ∧ e.isOs = true := by
  cases outcome : run.outcome with
  | ok a => exact absurd (h.ok a outcome).1 fails
  | error e => exact ⟨e, rfl, (h.error e outcome).2⟩

theorem Run.Hinges.after (h : run.Hinges condition values) (events : List Event) :
    (run.after events).Hinges condition values := ⟨h.ok, h.error⟩

/-- The condition may be put in other words, and the value used for another. -/
theorem Run.Hinges.map {f : α → β} {values' : β → Prop} (h : run.Hinges condition values)
    (same : condition ↔ condition') (lift : ∀ a, values a → values' (f a)) :
    (run.map f).Hinges condition' values' := by
  rcases run with ⟨e | a, events, q⟩
  · obtain ⟨fails, os⟩ := h.error e rfl
    exact .of_error rfl (fails ∘ same.mpr) os
  · obtain ⟨holds, value⟩ := h.ok a rfl
    exact .of_ok rfl (same.mp holds) (lift a value)

end

variable {p : Environment} {settings : ConnectSettings} {host : Text} {port : Int} {slot : Slot}

/-! ## Connections -/

/-- An attempt at an address fails with a fault of the socket for it. -/
theorem Entry.exists_fault_of_fault? {entry : Entry} {f : Fault}
    (h : entry.fault? settings = some f) : ∃ step, entry.faults step = some f := by
  cases create : entry.faults .create with
  | some g =>
    obtain ⟨same, -⟩ := Entry.fault?_of_uncreated settings create
    obtain rfl := Option.some.inj (same.symm.trans h)
    exact ⟨.create, create⟩
  | none =>
    obtain ⟨same, -⟩ := Entry.fault?_of_created settings create 0
    obtain ⟨step, -, -, fault⟩ := RawSocket.fault_of_plan (same.symm.trans h)
    exact ⟨step, fault⟩

theorem isOs_lastFailure {last : Failure} {entries : List Entry} (os : last.isOs = true)
    (recoverable : ∀ entry ∈ entries, Recoverable entry.faults) :
    (lastFailure settings last entries).isOs = true := by
  unfold lastFailure
  cases final : entries.getLast?.bind (·.fault? settings) with
  | none => exact os
  | some f =>
    obtain ⟨entry, at_end, fault⟩ := Option.bind_eq_some_iff.mp final
    obtain ⟨step, fault⟩ := Entry.exists_fault_of_fault? fault
    exact (recoverable entry (List.mem_of_getLast? at_end)).os step f fault

/-- **A connection hinges on an address that can be connected.** -/
theorem hinges_connect (network : p.network.SystemFaultsOnly)
    (writable : canWritePort (some port) = true) (settings : ConnectSettings) (host : Text) :
    (connect settings host port p).Hinges (p.network.Reaches settings host port)
      fun raw => raw.faults .close = none := by
  rw [connect_apply]
  cases found : p.network (Host.unbracketed host) port with
  | failed f =>
    refine .of_error rfl ?_ (network.lookups _ _ f writable found)
    rintro ⟨entries, found', -⟩
    cases found.symm.trans found'
  | found entries =>
    have recoverable := network.sockets _ _ entries found
    have attempts := tryEntries_of_recoverable settings recoverable .noAddress p
    cases first : entries.find? (·.connects settings) with
    | some entry =>
      have member : entry ∈ entries := List.mem_of_find?_eq_some first
      have connects : entry.connects settings = true := List.find?_some first
      simp only [first] at attempts
      refine .after (.of_ok (congrArg Run.outcome attempts) ?_ ?_) _
      · exact ⟨entries, found, entry, member, connects⟩
      · exact (recoverable entry member).close
    | none =>
      simp only [first] at attempts
      refine .after (.of_error (congrArg Run.outcome attempts) ?_ ?_) _
      · rintro ⟨entries', found', entry, member, connects⟩
        obtain rfl := Lookup.found.inj (found.symm.trans found')
        exact List.find?_eq_none.mp first entry member connects
      · exact isOs_lastFailure rfl recoverable

/-! ## TLS -/

/-- **Getting hold of a default context hinges on whether one can be built.** -/
theorem hinges_context (platform : p.platform.SystemFaultsOnly) (vacant : p.held slot = none) :
    ((ContextSource.onDemand slot).context p).Hinges p.platform.Builds
      fun c => ∃ n, c = .built n := by
  have outcome := outcome_context_of_vacant vacant
  rw [buildContext_default] at outcome
  cases setting : p.platform.setUpFault? with
  | some f =>
    simp only [setting] at outcome
    obtain ⟨step, -, fault⟩ := List.exists_of_findSome?_eq_some setting
    refine .of_error outcome (fun builds => ?_) (platform _ f fault)
    cases setting.symm.trans builds.setUp
  | none =>
    cases loading : p.platform.faults .authorities with
    | some f =>
      simp only [setting, loading] at outcome
      have os : f.kind.isA .os = true := platform _ f loading
      have reported : Tls.loadFailure (.fault f) = .noAuthorities (.fault f) := if_pos os
      rw [reported] at outcome
      refine .of_error outcome (fun builds => ?_) rfl
      cases loading.symm.trans builds.authorities
    | none =>
      simp only [setting, loading] at outcome
      exact .of_ok outcome ⟨setting, loading⟩ ⟨_, rfl⟩

/-- **Opening a socket with TLS hinges on both.** -/
theorem hinges_createTlsSocket (network : p.network.SystemFaultsOnly)
    (platform : p.platform.SystemFaultsOnly) (vacant : p.held slot = none)
    (writable : canWritePort (some port) = true) (settings : ConnectSettings) (host : Text) :
    (createTlsSocket settings (.onDemand slot) host port p).Hinges
      (p.network.Reaches settings host port ∧ p.platform.Serves)
      fun socket => ∃ raw, socket = .tls raw := by
  have built := hinges_context platform vacant
  have dialled {c events q}
      (context : (ContextSource.onDemand slot).context p = ⟨.ok c, events, q⟩) :
      (connect settings host port q).Hinges (p.network.Reaches settings host port)
        fun raw => raw.faults .close = none := by
    have steady := keeps_context_steady (.onDemand slot) p
    rw [context] at steady
    rw [← steady.network]
    exact hinges_connect (by rw [steady.network]; exact network) writable settings host
  have creation := tlsCreation_createTlsSocket settings (.onDemand slot) host port p
  generalize createTlsSocket settings (.onDemand slot) host port p = run at creation ⊢
  cases creation with
  | noContext context =>
    rw [context] at built
    obtain ⟨fails, os⟩ := built.error _ rfl
    exact .of_error rfl (fun available => fails available.2.toBuilds) os
  | unconnected context connected =>
    have dial := dialled context
    rw [connected] at dial
    obtain ⟨fails, os⟩ := dial.error _ rfl
    exact .of_error rfl (fun available => fails available.1) os
  | wrapped context connected handshake =>
    have dial := dialled context
    rw [context] at built
    rw [connected] at dial
    obtain ⟨builds, n, rfl⟩ := built.ok _ rfl
    obtain ⟨reaches, -⟩ := dial.ok _ rfl
    obtain ⟨-, -, same⟩ := connect_of_context context connected
    rw [same] at handshake
    exact .of_ok rfl ⟨reaches, builds, handshake⟩ ⟨_, rfl⟩
  | unwrapped context connected handshake only =>
    have dial := dialled context
    rw [context] at built
    rw [connected] at dial
    obtain ⟨-, n, rfl⟩ := built.ok _ rfl
    obtain ⟨-, closes⟩ := dial.ok _ rfl
    obtain ⟨-, -, same⟩ := connect_of_context context connected
    rw [same] at handshake
    refine .of_error rfl (fun available => ?_) ?_
    · cases available.2.handshake.symm.trans handshake
    · rw [closes]
      exact platform _ _ handshake

/-! ## Dials -/

/-- **A dial hinges on whether the endpoint is available**, if plain connections and those with TLS
are made with the same settings and the TLS context is still to be built. -/
theorem hinges_dial {o : Overrides} {e : Endpoint} (network : p.network.SystemFaultsOnly)
    (platform : p.platform.SystemFaultsOnly) (vacant : p.held slot = none)
    (writable : canWritePort (some e.port) = true) (plain : o.opener false = .plain settings)
    (tls : o.opener true = .tls settings (.onDemand slot)) :
    (dial o e p).Hinges (Available p.network p.platform settings e) fun t =>
      (∃ raw, t.socket = (if e.secure then .tls raw else .plain raw)) ∧
        t.socket.closeFault = none := by
  obtain ⟨selection, started, q, -, selected, -, run⟩ := dial_apply o e p
  have around : q.platform = p.platform := by
    obtain ⟨_, _, rfl⟩ := selected
    rfl
  have builtIn : (o.factory p e.secure).opener.BuiltIn := by
    rw [o.opener_factory]
    cases e.secure with
    | false => exact plain ▸ trivial
    | true => exact tls ▸ trivial
  rw [run, Endpoint.andThen_handOver builtIn]
  rw [← selected.network] at network ⊢
  rw [← around] at platform ⊢
  rw [← selected.held] at vacant
  refine .after ?_ _
  cases secure : e.secure with
  | false =>
    obtain ⟨origin, factory⟩ := Overrides.exists_factory plain p
    have connected : ((connect settings e.host e.port q).map Socket.plain).Hinges
        (q.network.Reaches settings e.host e.port)
        fun socket => ∃ raw, socket = .plain raw ∧ raw.faults .close = none :=
      (hinges_connect network writable settings e.host).map Iff.rfl fun raw closes =>
        ⟨raw, rfl, closes⟩
    rw [factory, createSocket_plain]
    refine connected.map ?_ ?_
    · refine ⟨fun reaches => ⟨reaches, fun asks => ?_⟩, fun available => available.reaches⟩
      cases secure.symm.trans asks
    · rintro _ ⟨raw, rfl, closes⟩
      exact ⟨⟨raw, rfl⟩, closes⟩
  | true =>
    rw [createSocket_tls ((o.opener_factory p true).trans tls)]
    refine (hinges_createTlsSocket network platform vacant writable settings e.host).map ?_ ?_
    · constructor
      · exact fun both => ⟨both.1, fun _ => both.2⟩
      · exact fun available => ⟨available.reaches, available.serves secure⟩
    · rintro _ ⟨raw, rfl⟩
      exact ⟨⟨raw, rfl⟩, rfl⟩

end Dialer
