import Dialer.Proofs.Resolver.Stages

/-!
# Contexts on demand

A TLS factory that was given no context builds one when it first needs it. This module says what the
building does, and what a socket that is opened through such a factory sees of it.

* `buildContext_apply` is the run of a building: the creation of the next context and then settings
  of contexts only.
* `Provision` lists the ways in which the context of a slot is got hold of.
* `BuildsFirst` says that a run begins with one attempt to build a context for a slot
  (`buildsFirst_createTlsSocket`), and `Event.UsesOnly` that a step uses a context that is there
  (`reuses_createTlsSocket`).
* `createSocket_held` and `createSocket_keeps_held` say which contexts opening a socket leaves as
  they are.
-/

namespace Dialer

open Dialer.Action

/-! ## Building -/

/-- Whether the event is the creation of a context. -/
def Event.createsContext : Event → Bool
  | newContext _ => true
  | _ => false

/-- The law of settings: nothing but events of contexts that exist. -/
def Settles (p : Environment) (events : List Event) (q : Environment) : Prop :=
  q = p ∧ ∀ e ∈ events, e.phase = .context ∧ e.createsContext = false

theorem settingLaw_settles : SettingLaw Settles where
  chains :=
    { nil := fun p => ⟨rfl, nofun⟩
      append := fun before after => by
        refine ⟨after.1.trans before.1, fun e he => ?_⟩
        rcases List.mem_append.mp he with he | he
        · exact before.2 e he
        · exact after.2 e he }
  event e phase other fault p := by
    refine ⟨rfl, fun e' he' => ?_⟩
    obtain rfl := List.mem_singleton.mp he'
    refine ⟨phase, ?_⟩
    cases e' with
    | newContext name => exact absurd rfl (other name)
    | _ => rfl

/-- A configuration that succeeds gives the context that was configured. -/
theorem yields_configure (config : Tls.ContextConfig) (context : Context) :
    Yields (Tls.configure config context) (· = context) := by
  refine Yields.bind fun _ => Yields.bind fun _ => Yields.bind fun _ => ?_
  refine Yields.ite_bind fun _ => Yields.ite_bind fun _ => ?_
  refine Yields.bind fun _ => Yields.bind fun _ => Yields.bind fun _ => ?_
  exact Yields.ite_bind fun _ => Yields.ite_bind fun _ => Yields.pure rfl

/-- **Building a context** creates the next one and then only settles what contexts there are. -/
theorem buildContext_apply (config : Tls.ContextConfig) (p : Environment) : ∃ outcome settings,
    Tls.buildContext config p = ⟨outcome,
      .newContext (Context.built (p.contexts + 1)).name :: settings,
      { p with contexts := p.contexts + 1 }⟩ ∧
    (∀ e ∈ settings, e.phase = .context ∧ e.createsContext = false) ∧
    ∀ c, outcome = .ok c → c = .built (p.contexts + 1) := by
  have start := newContext_apply p
  cases create : p.platform.faults .create with
  | some f =>
    refine ⟨.error (.fault f), [], ?_, nofun, nofun⟩
    rw [Tls.buildContext, bind_apply, start, create]
    rfl
  | none =>
    obtain ⟨same, settles⟩ := settingLaw_settles.keeps_configure config
      (.built (p.contexts + 1)) { p with contexts := p.contexts + 1 }
    rcases run :
        Tls.configure config (.built (p.contexts + 1)) { p with contexts := p.contexts + 1 }
      with ⟨outcome, settings, q⟩
    have value :=
      yields_configure config (.built (p.contexts + 1)) { p with contexts := p.contexts + 1 }
    rw [run] at same settles value
    subst same
    refine ⟨outcome, settings, ?_, settles, ?_⟩
    · rw [Tls.buildContext, bind_apply, start, create]
      simp only [run]
      rfl
    · exact value

theorem Event.createsContext_of_phase {e : Event} (h : e.phase ≠ .context) :
    e.createsContext = false := by
  cases e with
  | newContext name => exact absurd rfl h
  | _ => rfl

section

variable {config : Tls.ContextConfig} {p q : Environment} {outcome : Except Failure Context}
  {build : List Event}

theorem held_of_buildContext (h : Tls.buildContext config p = ⟨outcome, build, q⟩) :
    q.held = p.held := by
  obtain ⟨_, _, run, -⟩ := buildContext_apply config p
  obtain ⟨-, -, rfl⟩ := Run.mk.inj (h.symm.trans run)
  rfl

theorem phase_of_buildContext (h : Tls.buildContext config p = ⟨outcome, build, q⟩) :
    ∀ e ∈ build, e.phase = .context := by
  obtain ⟨_, settings, run, settles, -⟩ := buildContext_apply config p
  obtain ⟨-, rfl, -⟩ := Run.mk.inj (h.symm.trans run)
  exact List.forall_mem_cons.mpr ⟨rfl, fun e he => (settles e he).1⟩

/-- An attempt to build a context creates one. -/
theorem countP_of_buildContext (h : Tls.buildContext config p = ⟨outcome, build, q⟩) :
    build.countP Event.createsContext = 1 := by
  obtain ⟨_, settings, run, settles, -⟩ := buildContext_apply config p
  obtain ⟨-, rfl, -⟩ := Run.mk.inj (h.symm.trans run)
  have none : settings.countP Event.createsContext = 0 :=
    List.countP_eq_zero.mpr fun e he => by simp [(settles e he).2]
  rw [List.countP_cons_of_pos rfl, none]

end

/-! ## The context of a slot -/

/-- How the context of a slot is got hold of: it is there, or one attempt is made to build it. -/
inductive Provision (slot : Slot) (p : Environment) : Run Context → Prop
  | held {c} (held : p.held slot = some c) : Provision slot p ⟨.ok c, [], p⟩
  | built {c reports build q} (vacant : p.held slot = none)
      (only : ∀ e ∈ reports, e.phase = .report)
      (attempt : Tls.buildContext {} p = ⟨.ok c, build, q⟩) :
      Provision slot p ⟨.ok c, reports ++ build, q.hold slot c⟩
  | failed {e reports build q} (vacant : p.held slot = none)
      (only : ∀ e ∈ reports, e.phase = .report)
      (attempt : Tls.buildContext {} p = ⟨.error e, build, q⟩) :
      Provision slot p ⟨.error e, reports ++ build, q⟩

/-- **The context of a slot is got hold of in one of these ways.** -/
theorem provision_context (slot : Slot) (p : Environment) :
    Provision slot p ((ContextSource.onDemand slot).context p) := by
  rw [ContextSource.context, bind_apply]
  simp only [environment, List.nil_append]
  cases held : p.held slot with
  | some c => exact .held held
  | none =>
    obtain ⟨reports, run, only⟩ :=
      report_apply .debug .factory "Creating default SSL context" p
    simp only [bind_apply, run]
    rcases attempt : Tls.buildContext {} p with ⟨e | c, build, q⟩
    · exact .failed held only attempt
    · simp only [update, pure_apply, List.append_nil]
      exact .built held only attempt

/-! ## Dials -/

/-- The event neither belongs to the building of a context nor is a handshake with another one. -/
def Event.UsesOnly (c : Context) (e : Event) : Prop :=
  e.phase ≠ .context ∧ ∀ name socket server, e = .wrap name socket server → name = c.name

/-- The run begins with one attempt to build a context for the slot, apart from reports. If the
attempt fails, the run ends with it and in its failure, and the slot stays vacant. If it succeeds,
the slot holds the context, and the rest of the run uses only that. -/
inductive BuildsFirst (slot : Slot) (p : Environment) {α : Type} (run : Run α) : Prop
  | failed {reports q e build r} (only : ∀ e ∈ reports, e.phase = .report) (around : Selected p q)
      (attempt : Tls.buildContext {} q = ⟨.error e, build, r⟩)
      (quiet : ∀ e ∈ build, e.phase = .context) (outcome : run.outcome = .error e)
      (events : run.events = reports ++ build) (vacant : run.environment.held slot = none)
  | built {reports q c build r rest} (only : ∀ e ∈ reports, e.phase = .report)
      (around : Selected p q) (attempt : Tls.buildContext {} q = ⟨.ok c, build, r⟩)
      (quiet : ∀ e ∈ build, e.phase = .context)
      (events : run.events = reports ++ (build ++ rest)) (uses : ∀ e ∈ rest, e.UsesOnly c)
      (held : run.environment.held slot = some c)

variable {slot : Slot} {p q : Environment} {settings : ConnectSettings} {host : Text} {port : Int}
  {c : Context}

/-- Apart from the attempt to build, no context is created. -/
theorem BuildsFirst.countP {α : Type} {run : Run α} (h : BuildsFirst slot p run) :
    run.events.countP Event.createsContext = 1 := by
  have others {events : List Event} (h : ∀ e ∈ events, e.phase ≠ .context) :
      events.countP Event.createsContext = 0 :=
    List.countP_eq_zero.mpr fun e he => by simp [Event.createsContext_of_phase (h e he)]
  cases h with
  | failed only _ attempt _ _ events =>
    rw [events, List.countP_append, others fun e he => by simp [only e he],
      countP_of_buildContext attempt]
  | built only _ attempt _ events uses =>
    rw [events, List.countP_append, List.countP_append, others fun e he => by simp [only e he],
      countP_of_buildContext attempt, others fun e he => (uses e he).1]

theorem Event.usesOnly_of_phase {e : Event} (h : e.phase ≠ .context) (h' : e.phase ≠ .handshake) :
    e.UsesOnly c := by
  refine ⟨h, ?_⟩
  rintro name socket server rfl
  exact absurd rfl h'

theorem Event.usesOnly_wrap (c : Context) (socket : Nat) (server : Option Text) :
    (Event.wrap c.name socket server).UsesOnly c := by
  refine ⟨nofun, fun name socket server h => ?_⟩
  injection h with same
  exact same.symm

theorem usesOnly_of_connect {outcome : Except Failure RawSocket} {dialled : List Event}
    (h : connect settings host port p = ⟨outcome, dialled, q⟩) : ∀ e ∈ dialled, e.UsesOnly c := by
  have phases := connect_phase settings host port p
  rw [h] at phases
  intro e he
  rcases phases e he with h | h
  · exact Event.usesOnly_of_phase (by simp [h]) (by simp [h])
  · exact Event.usesOnly_of_phase (by simp [h]) (by simp [h])

theorem usesOnly_append {before after : List Event} (h : ∀ e ∈ before, e.UsesOnly c)
    (h' : ∀ e ∈ after, e.UsesOnly c) : ∀ e ∈ before ++ after, e.UsesOnly c := fun e he =>
  (List.mem_append.mp he).elim (h e) (h' e)

theorem usesOnly_of_reports {reports : List Event} (only : ∀ e ∈ reports, e.phase = .report) :
    ∀ e ∈ reports, e.UsesOnly c := fun e he =>
  Event.usesOnly_of_phase (by simp [only e he]) (by simp [only e he])

/-- Without a context, opening a socket with TLS ends at once. -/
theorem TlsCreation.noContext_inv {source : ContextSource} {run : Run Socket} {e : Failure}
    {built : List Event} (h : TlsCreation settings source host port p run)
    (context : source.context p = ⟨.error e, built, q⟩) : run = ⟨.error e, built, q⟩ := by
  cases h with
  | noContext context' =>
    cases context.symm.trans context'
    rfl
  | unconnected context' | wrapped context' | unwrapped context' =>
    cases context.symm.trans context'

/-- With a context, opening a socket with TLS uses only that. -/
theorem TlsCreation.context_inv {source : ContextSource} {run : Run Socket} {built : List Event}
    (h : TlsCreation settings source host port p run)
    (context : source.context p = ⟨.ok c, built, q⟩) :
    ∃ rest n, run.events = built ++ rest ∧ (∀ e ∈ rest, e.UsesOnly c) ∧
      run.environment = { q with sockets := q.sockets + n } := by
  obtain ⟨n, counted⟩ := connect_environment settings host port q
  cases h with
  | noContext context' => cases context.symm.trans context'
  | unconnected context' connected =>
    cases context.symm.trans context'
    rw [connected] at counted
    exact ⟨_, n, rfl, usesOnly_of_connect connected, counted⟩
  | wrapped context' connected =>
    cases context.symm.trans context'
    rw [connected] at counted
    refine ⟨_, n, rfl, usesOnly_append (usesOnly_of_connect connected) fun e he => ?_, counted⟩
    rw [List.mem_singleton.mp he]
    exact Event.usesOnly_wrap c _ _
  | unwrapped context' connected handshake only =>
    cases context.symm.trans context'
    rw [connected] at counted
    refine ⟨_, n, rfl, usesOnly_append (usesOnly_of_connect connected)
      (usesOnly_append (fun e he => ?_) (usesOnly_of_reports only)), counted⟩
    simp only [List.mem_cons, List.not_mem_nil, or_false] at he
    rcases he with rfl | rfl
    · exact Event.usesOnly_wrap c _ _
    · exact Event.usesOnly_of_phase nofun nofun

/-! ## Opening sockets -/

/-- **A vacant slot is filled first.** A socket is opened through the factory of a vacant slot by
building a context before anything else. -/
theorem buildsFirst_createTlsSocket (settings : ConnectSettings) (host : Text) (port : Int)
    (vacant : p.held slot = none) :
    BuildsFirst slot p (createTlsSocket settings (.onDemand slot) host port p) := by
  have creation := tlsCreation_createTlsSocket settings (.onDemand slot) host port p
  have provision := provision_context slot p
  generalize run : (ContextSource.onDemand slot).context p = provided at provision
  cases provision with
  | held held => cases vacant.symm.trans held
  | failed _ only attempt =>
    rw [creation.noContext_inv run]
    refine .failed only (.refl p) attempt (phase_of_buildContext attempt) rfl rfl ?_
    rw [held_of_buildContext attempt]
    exact vacant
  | built _ only attempt =>
    obtain ⟨rest, n, events, uses, environment⟩ := creation.context_inv run
    refine .built only (.refl p) attempt (phase_of_buildContext attempt) ?_ uses ?_
    · rw [events, List.append_assoc]
    · rw [environment]
      exact Environment.held_hold _ _ _

/-- **A context that is there is used.** -/
theorem reuses_createTlsSocket (settings : ConnectSettings) (host : Text) (port : Int)
    (held : p.held slot = some c) :
    ∀ e ∈ (createTlsSocket settings (.onDemand slot) host port p).events, e.UsesOnly c := by
  have creation := tlsCreation_createTlsSocket settings (.onDemand slot) host port p
  have provision := provision_context slot p
  generalize run : (ContextSource.onDemand slot).context p = provided at provision
  cases provision with
  | held held' =>
    cases held.symm.trans held'
    -- The context costs no event here, so all events are those after it.
    obtain ⟨rest, n, events, uses, -⟩ := creation.context_inv run
    rw [events]
    exact uses
  | failed vacant => cases held.symm.trans vacant
  | built vacant => cases held.symm.trans vacant

/-- **Nothing is built** by opening a socket, unless through the factory of a vacant slot. -/
theorem createSocket_phase_ne_context {f : Factory}
    (held : ∀ settings slot, f.opener = .tls settings (.onDemand slot) → p.held slot ≠ none) :
    ∀ e ∈ (f.createSocket host port p).events, e.phase ≠ .context := by
  obtain ⟨origin, settings | ⟨settings, source⟩ | ⟨name, fault, faults⟩⟩ := f
  · rw [createSocket_plain]
    intro e he
    rcases connect_phase settings host port p e he with h | h <;> simp [h]
  · rw [createSocket_tls rfl]
    cases source with
    | given c =>
      have creation := tlsCreation_createTlsSocket settings (.given c) host port p
      obtain ⟨rest, _, events, uses, -⟩ := creation.context_inv (c := c) rfl
      rw [events]
      exact fun e he => (uses e he).1
    | onDemand slot =>
      obtain ⟨c, present⟩ := Option.ne_none_iff_exists'.mp (held settings slot rfl)
      exact fun e he => (reuses_createTlsSocket settings host port present e he).1
  · rw [createSocket_supplied]
    cases fault <;> simp [Event.phase]

/-! ## What stays the same -/

/-- Beside sockets, contexts and what slots hold, everything stays as it is. -/
def Environment.Around (p q : Environment) : Prop :=
  ∃ sockets contexts held, q = { p with sockets, contexts, held }

theorem context_around (source : ContextSource) (p : Environment) :
    p.Around (source.context p).environment := by
  cases source with
  | given c => exact ⟨_, _, _, rfl⟩
  | onDemand slot =>
    have provision := provision_context slot p
    generalize (ContextSource.onDemand slot).context p = run at provision ⊢
    have build {outcome build q} (attempt : Tls.buildContext {} p = ⟨outcome, build, q⟩) :
        q = { p with contexts := p.contexts + 1 } := by
      obtain ⟨_, _, run, -⟩ := buildContext_apply {} p
      exact (Run.mk.inj (attempt.symm.trans run)).2.2
    cases provision with
    | held => exact ⟨_, _, _, rfl⟩
    | failed _ _ attempt =>
      obtain rfl := build attempt
      exact ⟨_, _, _, rfl⟩
    | built _ _ attempt =>
      obtain rfl := build attempt
      exact ⟨_, _, _, rfl⟩

theorem createTlsSocket_environment (settings : ConnectSettings) (source : ContextSource)
    (host : Text) (port : Int) (p : Environment) :
    ∃ n, (createTlsSocket settings source host port p).environment =
      { (source.context p).environment with
        sockets := (source.context p).environment.sockets + n } := by
  have creation := tlsCreation_createTlsSocket settings source host port p
  rcases context : source.context p with ⟨e | c, built, q⟩
  · rw [creation.noContext_inv context]
    exact ⟨0, rfl⟩
  · obtain ⟨_, n, -, -, environment⟩ := creation.context_inv context
    exact ⟨n, environment⟩

theorem createSocket_around (f : Factory) (host : Text) (port : Int) (p : Environment) :
    p.Around (f.createSocket host port p).environment := by
  obtain ⟨origin, settings | ⟨settings, source⟩ | ⟨name, fault, faults⟩⟩ := f
  · obtain ⟨n, counted⟩ := connect_environment settings host port p
    rw [createSocket_plain, Run.map, counted]
    exact ⟨_, _, _, rfl⟩
  · obtain ⟨n, counted⟩ := createTlsSocket_environment settings source host port p
    obtain ⟨_, _, _, around⟩ := context_around source p
    rw [createSocket_tls rfl, counted, around]
    exact ⟨_, _, _, rfl⟩
  · rw [createSocket_supplied]
    cases fault <;> exact ⟨_, _, _, rfl⟩

/-- Only a dial through its own factory changes what a slot holds. -/
theorem createSocket_held {f : Factory}
    (other : ∀ settings, f.opener ≠ .tls settings (.onDemand slot)) :
    (f.createSocket host port p).environment.held slot = p.held slot := by
  obtain ⟨origin, settings | ⟨settings, source⟩ | ⟨name, fault, faults⟩⟩ := f
  · obtain ⟨n, counted⟩ := connect_environment settings host port p
    rw [createSocket_plain, Run.map, counted]
  · obtain ⟨n, counted⟩ := createTlsSocket_environment settings source host port p
    rw [createSocket_tls rfl, counted]
    cases source with
    | given c => rfl
    | onDemand own =>
      have different : slot ≠ own := by
        rintro rfl
        exact other settings rfl
      have provision := provision_context own p
      generalize (ContextSource.onDemand own).context p = run at provision ⊢
      cases provision with
      | held => rfl
      | failed _ _ attempt => exact congrFun (held_of_buildContext attempt) slot
      | built _ _ attempt =>
        rw [Environment.held_hold_of_ne _ _ different]
        exact congrFun (held_of_buildContext attempt) slot
  · rw [createSocket_supplied]
    cases fault <;> rfl

/-- A context is kept for good. -/
theorem createSocket_keeps_held (f : Factory) (held : p.held slot = some c) :
    (f.createSocket host port p).environment.held slot = some c := by
  by_cases own : ∃ settings, f.opener = .tls settings (.onDemand slot)
  · obtain ⟨settings, opener⟩ := own
    obtain ⟨n, counted⟩ := createTlsSocket_environment settings (.onDemand slot) host port p
    rw [createSocket_tls opener, counted]
    have provision := provision_context slot p
    generalize (ContextSource.onDemand slot).context p = run at provision ⊢
    cases provision with
    | held => exact held
    | failed vacant => cases held.symm.trans vacant
    | built vacant => cases held.symm.trans vacant
  · rw [createSocket_held fun settings h => own ⟨settings, h⟩]
    exact held

end Dialer
