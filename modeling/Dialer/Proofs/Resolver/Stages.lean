import Dialer.Proofs.Action.Phases
import Dialer.Proofs.Connect.Attempts
import Dialer.Resolver

/-!
# The stages of dialling

What each stage of resolving an accepted reference does: selecting a factory, getting hold of a TLS
context, the handshake, and all of it in turn.

* `select_apply` says that selection always succeeds, with the factory that `Overrides.factory`
  names, and only reports.
* `ContextLaw` is what a law must meet to be kept by the building of contexts. `context_eq_ok` says
  which context a factory gives.
* `TlsCreation` lists the ways in which opening a socket with TLS goes
  (`tlsCreation_createTlsSocket`).
* `dial_apply` is a dial: reports, and one call of the selected factory.
-/

namespace Dialer

open Dialer.Action

variable {p q : Environment} {events : List Event}

/-! ## Selection -/

/-- The number of the process-wide factory of a kind, which is created next if there is none. -/
def Environment.defaultNumber (p : Environment) (secure : Bool) : Nat :=
  (p.processWide secure).getD (p.factories + 1)

/-- The process-wide factory of a kind. -/
def Environment.default (p : Environment) (secure : Bool) : Factory :=
  .processWide secure (p.defaultNumber secure)

/-- The environment in which the process-wide factory of a kind has been created. -/
def Environment.withDefault (p : Environment) (secure : Bool) : Environment :=
  if (p.processWide secure).isSome then p else p.createDefault secure

/-- The factory that is selected. -/
def Overrides.factory (o : Overrides) (p : Environment) (secure : Bool) : Factory :=
  if secure then
    match o.context, o.tlsFactory with
    | some context, _ => Factory.ofContext context .derived
    | none, some factory => factory
    | none, none => p.default true
  else o.plainFactory.getD (p.default false)

/-- How the factory that is selected opens sockets. -/
def Overrides.opener (o : Overrides) (secure : Bool) : Opener :=
  if secure then
    match o.context, o.tlsFactory with
    | some context, _ => .tls {} (.given context)
    | none, some factory => factory.opener
    | none, none => .processWide true
  else (o.plainFactory.map Factory.opener).getD (.processWide false)

@[simp]
theorem Overrides.opener_factory (o : Overrides) (p : Environment) (secure : Bool) :
    (o.factory p secure).opener = o.opener secure := by
  obtain ⟨plain, tls, context⟩ := o
  cases secure with
  | false => cases plain <;> rfl
  | true => cases context <;> cases tls <;> rfl

theorem Overrides.exists_factory {o : Overrides} {secure : Bool} {opener : Opener}
    (h : o.opener secure = opener) (p : Environment) :
    ∃ origin, o.factory p secure = ⟨origin, opener⟩ :=
  ⟨_, congrArg (Factory.mk _) ((o.opener_factory p secure).trans h)⟩

/-- What selection may change: which process-wide factories there are. -/
def Selected (p q : Environment) : Prop :=
  ∃ factories processWide, q = { p with factories, processWide }

theorem Selected.refl (p : Environment) : Selected p p := ⟨_, _, rfl⟩

theorem Selected.trans {r : Environment} (h : Selected p q) (h' : Selected q r) :
    Selected p r := by
  obtain ⟨_, _, rfl⟩ := h
  obtain ⟨_, _, rfl⟩ := h'
  exact ⟨_, _, rfl⟩

theorem Selected.sockets (h : Selected p q) : q.sockets = p.sockets := by
  obtain ⟨_, _, rfl⟩ := h
  rfl

theorem Selected.network (h : Selected p q) : q.network = p.network := by
  obtain ⟨_, _, rfl⟩ := h
  rfl

theorem Selected.held (h : Selected p q) : q.held = p.held := by
  obtain ⟨_, _, rfl⟩ := h
  rfl

/-- Asking for a process-wide factory always gives it, and creates it if need be. -/
theorem defaultFactory_apply (secure : Bool) (p : Environment) : ∃ reports,
    defaultFactory secure p = ⟨.ok (p.default secure), reports, p.withDefault secure⟩ ∧
      ∀ e ∈ reports, e.phase = .report := by
  obtain ⟨reports, run, only⟩ := report_apply .debug .factory (creationMessage secure) p
  unfold Environment.default Environment.defaultNumber Environment.withDefault
  cases before : p.processWide secure with
  | some number =>
    refine ⟨[], ?_, nofun⟩
    simp [defaultFactory, bind_apply, environment, before, pure_apply]
  | none =>
    refine ⟨reports, ?_, only⟩
    simp only [defaultFactory, bind_apply, environment, before, run, update, pure_apply,
      List.nil_append, List.append_nil]
    rfl

theorem selected_withDefault (p : Environment) (secure : Bool) :
    Selected p (p.withDefault secure) := by
  unfold Environment.withDefault
  split
  · exact .refl p
  · exact ⟨_, _, rfl⟩

/-- Selection succeeds and does nothing else than report. -/
theorem select_apply (o : Overrides) (secure : Bool) (p : Environment) : ∃ reports q,
    o.select secure p = ⟨.ok (o.factory p secure), reports, q⟩ ∧
      (∀ e ∈ reports, e.phase = .report) ∧ Selected p q := by
  have given (f : Factory) : ∃ reports q, (pure f : Action Factory) p = ⟨.ok f, reports, q⟩ ∧
      (∀ e ∈ reports, e.phase = .report) ∧ Selected p q :=
    ⟨[], p, rfl, nofun, .refl p⟩
  rw [Overrides.select, Overrides.factory]
  cases secure with
  | false =>
    cases o.plainFactory with
    | none =>
      obtain ⟨reports, run, only⟩ := defaultFactory_apply false p
      exact ⟨reports, _, run, only, selected_withDefault p false⟩
    | some f => exact given f
  | true =>
    rcases o.context with _ | context
    · rcases o.tlsFactory with _ | f
      · obtain ⟨reports, run, only⟩ := defaultFactory_apply true p
        exact ⟨reports, _, run, only, selected_withDefault p true⟩
      · exact given f
    · exact given (Factory.ofContext context .derived)

/-! ## Contexts -/

theorem keeps_step {law : Environment → List Event → Environment → Prop} (chains : Chains law)
    (s : ContextStep) (e : Event) (h : ∀ fault, Keeps law (perform e fault)) :
    Keeps law (Context.step s e) :=
  Keeps.bind chains (Keeps.environment chains) fun p => h (p.platform.faults s)

theorem newContext_apply (p : Environment) :
    newContext p =
      ⟨match p.platform.faults .create with
        | some f => .error (.fault f)
        | none => .ok (.built (p.contexts + 1)), [.newContext (.built (p.contexts + 1))],
        { p with contexts := p.contexts + 1 }⟩ := by
  have run : newContext p = (update (fun p => { p with contexts := p.contexts + 1 }) >>= _) p := rfl
  rw [run]
  simp only [bind_apply, update, environment, perform]
  cases p.platform.faults .create <;> rfl

/-- A law of the settings of contexts. -/
structure SettingLaw (law : Environment → List Event → Environment → Prop) : Prop where
  chains : Chains law
  event : ∀ e, e.phase = .context → (∀ name, e ≠ .newContext name) → ∀ fault,
    Keeps law (perform e fault)

theorem SettingLaw.keeps_configure {law : Environment → List Event → Environment → Prop}
    (h : SettingLaw law) (config : Tls.ContextConfig) (context : Context) :
    Keeps law (Tls.configure config context) := by
  have assign (c : Context) (setting : Setting) : Keeps law (c.assign setting) :=
    keeps_step h.chains _ _ (h.event _ rfl nofun)
  have load (c : Context) (authorities : Option Text) :
      Keeps law (Tls.loadAuthorities c authorities) := by
    refine Keeps.bind h.chains
      (Keeps.attempt (keeps_step h.chains _ _ (h.event _ rfl nofun))) fun outcome => ?_
    cases outcome with
    | ok => exact Keeps.pure h.chains ()
    | error e => exact Keeps.fail h.chains _
  refine Keeps.bind h.chains (Keeps.environment h.chains) fun p => Keeps.bind h.chains
    (Keeps.ofExcept h.chains _) fun requirement => Keeps.bind h.chains (assign _ _) fun _ => ?_
  refine Keeps.ite_bind h.chains (assign _ _) fun _ => ?_
  refine Keeps.ite_bind h.chains (assign _ _) fun _ => ?_
  refine Keeps.bind h.chains (assign _ _) fun _ => ?_
  refine Keeps.bind h.chains (Keeps.forM_option h.chains (fun _ => assign _ _) _) fun _ => ?_
  refine Keeps.bind h.chains (Keeps.forM_option h.chains (fun _ => assign _ _) _) fun _ => ?_
  refine Keeps.ite_bind h.chains (keeps_step h.chains _ _ (h.event _ rfl nofun)) fun _ => ?_
  exact Keeps.ite_bind h.chains (load _ _) fun _ => Keeps.pure h.chains context

/-- A law of building contexts. -/
structure ContextLaw (law : Environment → List Event → Environment → Prop) : Prop where
  chains : Chains law
  event : ∀ e, e.phase = .context → ∀ fault, Keeps law (perform e fault)
  count : Keeps law (update fun p => { p with contexts := p.contexts + 1 })

theorem ContextLaw.keeps_buildContext {law : Environment → List Event → Environment → Prop}
    (h : ContextLaw law) (config : Tls.ContextConfig) : Keeps law (Tls.buildContext config) := by
  have settings : SettingLaw law := ⟨h.chains, fun e he _ => h.event e he⟩
  have create : Keeps law newContext := by
    refine Keeps.bind h.chains h.count fun _ => Keeps.bind h.chains (Keeps.environment h.chains) ?_
    exact fun p => Keeps.bind h.chains (h.event _ rfl _) fun _ => Keeps.pure h.chains _
  exact Keeps.bind h.chains create fun context => settings.keeps_configure config context

theorem contextLaw_within : ContextLaw (Within [.context, .report]) where
  chains := chains_within _
  event e h fault := keeps_perform_within fault (by simp [h])
  count _ := nofun

theorem contextLaw_steady : ContextLaw Steady where
  chains := chains_steady
  event e _ fault := keeps_perform_steady e fault
  count _ := ⟨rfl, rfl, rfl, rfl⟩

/-- Getting hold of the context of a factory. -/
theorem ContextLaw.keeps_context {law : Environment → List Event → Environment → Prop}
    (h : ContextLaw law)
    (reported : Keeps law (report .debug .factory "Creating default SSL context"))
    (hold : ∀ slot c, Keeps law (update (·.hold slot c))) (source : ContextSource) :
    Keeps law source.context := by
  cases source with
  | given c => exact Keeps.pure h.chains c
  | onDemand slot =>
    refine Keeps.bind h.chains (Keeps.environment h.chains) fun p => ?_
    cases p.held slot with
    | some c => exact Keeps.pure h.chains c
    | none =>
      refine Keeps.bind h.chains reported fun _ => ?_
      refine Keeps.bind h.chains (h.keeps_buildContext {}) fun c => ?_
      exact Keeps.bind h.chains (hold slot c) fun _ => Keeps.pure h.chains c

theorem keeps_context_within (source : ContextSource) :
    Keeps (Within [.context, .report]) source.context :=
  contextLaw_within.keeps_context (keeps_report_within (by decide) _ _ _) (fun _ _ _ => nofun)
    source

theorem keeps_context_steady (source : ContextSource) : Keeps Steady source.context := by
  refine contextLaw_steady.keeps_context ?_ (fun _ _ _ => ⟨rfl, rfl, rfl, rfl⟩) source
  exact Keeps.report chains_steady _ _ _ fun _ _ => ⟨rfl, rfl, rfl, rfl⟩

/-- The context that a factory gives is the one that it has, and it keeps it. -/
theorem context_eq_ok {source : ContextSource} {c : Context}
    (h : source.context p = ⟨.ok c, events, q⟩) :
    source.present? q = some c ∧ ∀ c', source.present? p = some c' → c' = c := by
  cases source with
  | given c' =>
    obtain ⟨outcome, -, -⟩ := Run.mk.inj h
    obtain rfl := Except.ok.inj outcome
    exact ⟨rfl, fun c h => (Option.some.inj h).symm⟩
  | onDemand slot =>
    rw [ContextSource.context, bind_eq_ok_iff] at h
    obtain ⟨_, _, after, _, start, h, rfl⟩ := h
    obtain ⟨outcome, -, rfl⟩ := Run.mk.inj start
    obtain rfl := Except.ok.inj outcome
    cases held : p.held slot with
    | some c' =>
      simp only [held] at h
      obtain ⟨outcome, -, rfl⟩ := Run.mk.inj h
      obtain rfl := Except.ok.inj outcome
      exact ⟨held, fun c h => Option.some.inj (h.symm.trans held)⟩
    | none =>
      simp only [held, bind_eq_ok_iff] at h
      obtain ⟨_, _, _, _, -, ⟨_, _, _, _, -, ⟨_, _, _, _, stored, done, -⟩, -⟩, -⟩ := h
      obtain ⟨outcome, -, rfl⟩ := Run.mk.inj done
      obtain rfl := Except.ok.inj outcome
      obtain ⟨-, -, rfl⟩ := Run.mk.inj stored
      exact ⟨Environment.held_hold _ _ _, fun c h => absurd (h.symm.trans held) nofun⟩

theorem present?_of_held_eq (source : ContextSource) (h : q.held = p.held) :
    source.present? q = source.present? p := by
  cases source with
  | given c => rfl
  | onDemand slot => exact congrFun h slot

/-! ## Handshakes -/

theorem wrap_apply (c : Context) (s : RawSocket) (name : Option Text) (p : Environment) :
    c.wrap s name p =
      ⟨match c.wrapFault p.platform with
        | some f => .error (.fault f)
        | none => .ok (.tls s), [.wrap c.name s.number name], p⟩ := by
  rw [Context.wrap]
  simp only [bind_apply, environment, perform]
  cases c.wrapFault p.platform <;> rfl

/-- A handshake, after which the socket is closed if it fails. -/
theorem wrapConnected_apply (c : Context) (s : RawSocket) (name : Option Text) (p : Environment) :
    Tls.wrapConnected c s name p =
      match c.wrapFault p.platform with
      | none => ⟨.ok (.tls s), [.wrap c.name s.number (name.map Host.unbracketed)], p⟩
      | some f =>
        ⟨.error (.fault ((s.faults .close).getD f)),
          [.wrap c.name s.number (name.map Host.unbracketed), .close (.plain s.number)], p⟩ := by
  rw [Tls.wrapConnected, onFailure_apply, wrap_apply]
  cases c.wrapFault p.platform with
  | none => rfl
  | some f =>
    have closing : (Socket.plain s).closeFault = s.faults .close := rfl
    simp only [Socket.close_apply, closing]
    cases s.faults .close <;> rfl

/-! ## Connections -/

theorem connect_phase (settings : ConnectSettings) (host : Text) (port : Int) (p : Environment) :
    ∀ e ∈ (connect settings host port p).events, e.phase = .lookup ∨ e.phase = .socket := by
  intro e he
  rw [connect_apply] at he
  split at he
  next entries _ =>
    rcases List.mem_append.mp he with he | he
    · rw [List.mem_singleton.mp he]
      exact Or.inl rfl
    · exact Or.inr ((attempts_tryEntries settings .noAddress entries p).phase e he)
  next =>
    rw [List.mem_singleton.mp he]
    exact Or.inl rfl

/-- How opening a socket with TLS goes. -/
inductive TlsCreation (settings : ConnectSettings) (source : ContextSource) (host : Text)
    (port : Int) (p : Environment) : Run Socket → Prop
  | noContext {e built q} (context : source.context p = ⟨.error e, built, q⟩) :
      TlsCreation settings source host port p ⟨.error e, built, q⟩
  | unconnected {c built q e dialled r} (context : source.context p = ⟨.ok c, built, q⟩)
      (connected : connect settings host port q = ⟨.error e, dialled, r⟩) :
      TlsCreation settings source host port p ⟨.error e, built ++ dialled, r⟩
  | wrapped {c built q raw dialled r} (context : source.context p = ⟨.ok c, built, q⟩)
      (connected : connect settings host port q = ⟨.ok raw, dialled, r⟩)
      (handshake : c.wrapFault r.platform = none) :
      TlsCreation settings source host port p ⟨.ok (.tls raw),
        built ++ (dialled ++ [.wrap c.name raw.number (some (Host.unbracketed host))]), r⟩
  | unwrapped {c built q raw dialled r f reports} (context : source.context p = ⟨.ok c, built, q⟩)
      (connected : connect settings host port q = ⟨.ok raw, dialled, r⟩)
      (handshake : c.wrapFault r.platform = some f) (only : ∀ e ∈ reports, e.phase = .report) :
      TlsCreation settings source host port p
        ⟨.error (.fault ((raw.faults .close).getD f)), built ++ (dialled ++
          ([.wrap c.name raw.number (some (Host.unbracketed host)), .close (.plain raw.number)] ++
            reports)), r⟩

/-- **Opening a socket with TLS goes one of these ways.** -/
theorem tlsCreation_createTlsSocket (settings : ConnectSettings) (source : ContextSource)
    (host : Text) (port : Int) (p : Environment) :
    TlsCreation settings source host port p (createTlsSocket settings source host port p) := by
  rw [createTlsSocket, bind_apply]
  rcases context : source.context p with ⟨e | c, built, q⟩
  · exact .noContext context
  · dsimp only
    rw [bind_apply]
    rcases connected : connect settings host port q with ⟨e | raw, dialled, r⟩
    · exact .unconnected context connected
    · dsimp only
      rw [onFailure_apply, wrapConnected_apply]
      cases handshake : c.wrapFault r.platform with
      | none => exact .wrapped context connected handshake
      | some f =>
        have reported (c : Bool) : ∃ reports,
            (if c then report .debug .factory (handshakeMessage host port) else pure ()) r =
              ⟨.ok (), reports, r⟩ ∧ ∀ e ∈ reports, e.phase = .report := by
          cases c with
          | true => exact report_apply .debug .factory (handshakeMessage host port) r
          | false => exact ⟨[], rfl, nofun⟩
        obtain ⟨reports, run, only⟩ :=
          reported (Failure.fault ((raw.faults .close).getD f)).isOs
        simp only [run]
        exact .unwrapped context connected handshake only

/-! ## Factories -/

/-- The phases of opening a socket with TLS. -/
def tlsPhases : List Phase := [.context, .report, .lookup, .socket, .handshake]

/-- A law of opening sockets with TLS, from the laws of its parts. -/
theorem keeps_createTlsSocket {law : Environment → List Event → Environment → Prop}
    (chains : Chains law) (settings : ConnectSettings) (source : ContextSource) (host : Text)
    (port : Int) (context : Keeps law source.context)
    (connected : Keeps law (connect settings host port))
    (step : ∀ e : Event, e.phase = .handshake ∨ e.phase = .socket → ∀ fault,
      Keeps law (perform e fault))
    (reported : Keeps law (report .debug .factory (handshakeMessage host port))) :
    Keeps law (createTlsSocket settings source host port) := by
  have wrap (c : Context) (s : RawSocket) (name : Option Text) : Keeps law (c.wrap s name) := by
    refine Keeps.bind chains (Keeps.environment chains) fun p => ?_
    exact Keeps.bind chains (step _ (Or.inl rfl) _) fun _ => Keeps.pure chains _
  refine Keeps.bind chains context fun c => Keeps.bind chains connected fun s => ?_
  refine Keeps.onFailure chains ?_ fun e => ?_
  · exact Keeps.onFailure chains (wrap c s _) fun _ => step _ (Or.inr rfl) _
  · split
    · exact reported
    · exact Keeps.pure chains ()

theorem keeps_createTlsSocket_within (settings : ConnectSettings) (source : ContextSource)
    (host : Text) (port : Int) :
    Keeps (Within tlsPhases) (createTlsSocket settings source host port) := by
  refine keeps_createTlsSocket (chains_within tlsPhases) settings source host port
    ((keeps_context_within source).within_mono (by decide)) (fun p e he => ?_)
    (fun e phase fault => keeps_perform_within fault ?_) (keeps_report_within (by decide) _ _ _)
  · rcases connect_phase settings host port p e he with h | h <;> simp [h, tlsPhases]
  · rcases phase with h | h <;> simp [h, tlsPhases]

theorem createSocket_plain (origin : Origin) (settings : ConnectSettings) (host : Text)
    (port : Int) (p : Environment) :
    Factory.createSocket ⟨origin, .plain settings⟩ host port p =
      (connect settings host port p).map .plain :=
  map_apply Socket.plain (connect settings host port) p

theorem createSocket_tls {f : Factory} {settings : ConnectSettings} {source : ContextSource}
    (h : f.opener = .tls settings source) (host : Text) (port : Int) :
    f.createSocket host port = createTlsSocket settings source host port := by
  rw [Factory.createSocket, h]

theorem createSocket_supplied (origin : Origin) (name : Text) (fault : Option Fault)
    (faults : SocketFaults) (host : Text) (port : Int) (p : Environment) :
    Factory.createSocket ⟨origin, .supplied name fault faults⟩ host port p =
      match fault with
      | some f => ⟨.error (.fault f), [.createSocket name host port], p⟩
      | none =>
        ⟨.ok (.plain ⟨p.sockets + 1, faults, []⟩), [.createSocket name host port],
          p.withSocket⟩ := by
  cases fault <;> rfl

/-- The factory is not one of the caller's own making. -/
def Opener.BuiltIn : Opener → Prop
  | .supplied .. => False
  | _ => True

/-- A factory of the library opens no socket for a port that cannot be written. -/
theorem canWritePort_of_createSocket {f : Factory} (builtIn : f.opener.BuiltIn) {host : Text}
    {port : Int} {socket : Socket} (h : (f.createSocket host port p).outcome = .ok socket) :
    canWritePort (some port) = true := by
  obtain ⟨origin, settings | ⟨settings, source⟩ | ⟨name, fault, faults⟩⟩ := f
  · rw [createSocket_plain] at h
    rcases run : connect settings host port p with ⟨e | raw, events, q⟩
    · rw [run] at h
      cases h
    · exact canWritePort_of_connect (congrArg Run.outcome run)
  · have creation := tlsCreation_createTlsSocket settings source host port p
    change (createTlsSocket settings source host port p).outcome = .ok socket at h
    generalize createTlsSocket settings source host port p = run at creation h
    cases creation with
    | wrapped _ connected _ => exact canWritePort_of_connect (congrArg Run.outcome connected)
    | noContext | unconnected | unwrapped => cases h
  · cases builtIn

/-! ## Resolving -/

/-- What an endpoint that a socket is connected to is resolved to. -/
def Endpoint.target (e : Endpoint) (socket : Socket) : Target where
  socket
  hostHeader := hostHeader e.host (some e.port)
  requestTarget := e.requestTarget
  userInfo := e.userInfo
  secure := e.secure
  host := e.host
  port := e.port

/-- A socket is handed over if the port can be written. -/
theorem Endpoint.handOver_eq (e : Endpoint) (socket : Socket) :
    e.handOver socket =
      if canWritePort (some e.port) then .ok (e.target socket) else .error .unwritable := by
  rw [handOver, writeHostHeader, withPort]
  split <;> rfl

theorem Endpoint.handOver_of_writable {e : Endpoint} (writable : canWritePort (some e.port) = true)
    (socket : Socket) : e.handOver socket = .ok (e.target socket) := by
  rw [handOver_eq, if_pos writable]

theorem Endpoint.handOver_of_unwritable {e : Endpoint}
    (unwritable : canWritePort (some e.port) = false) (socket : Socket) :
    e.handOver socket = .error .unwritable := by
  rw [handOver_eq, unwritable]
  rfl

theorem Endpoint.eq_target_of_handOver {e : Endpoint} {socket : Socket} {t : Target}
    (h : e.handOver socket = .ok t) : t = e.target socket := by
  rw [handOver_eq] at h
  split at h
  next => exact (Except.ok.inj h).symm
  next => cases h

/-- Whatever a factory of the library opens can be handed over. -/
theorem Endpoint.andThen_handOver {f : Factory} (builtIn : f.opener.BuiltIn) (e : Endpoint)
    (p : Environment) : (f.createSocket e.host e.port p).andThen e.handOver =
      (f.createSocket e.host e.port p).map e.target := by
  rw [Run.andThen, Run.map]
  cases opened : (f.createSocket e.host e.port p).outcome with
  | error e => rfl
  | ok socket =>
    have writable := canWritePort_of_createSocket builtIn opened
    exact congrArg (Run.mk · _ _) (handOver_of_writable writable socket)

theorem reportStart_apply (e : Endpoint) (p : Environment) : ∃ reports,
    reportStart e p = ⟨.ok (), reports, p⟩ ∧ ∀ event ∈ reports, event.phase = .report := by
  rw [reportStart]
  split
  next => exact report_apply .debug .resolver (startMessage e) p
  next => exact ⟨[], rfl, nofun⟩

/-- **An endpoint is dialled by one call of the selected factory**, before which there are only
reports. The socket is then handed over. -/
theorem dial_apply (o : Overrides) (e : Endpoint) (p : Environment) : ∃ selection started q,
    o.select e.secure p = ⟨.ok (o.factory p e.secure), selection, q⟩ ∧ Selected p q ∧
      (∀ event ∈ selection ++ started, event.phase = .report) ∧
      dial o e p = (((o.factory p e.secure).createSocket e.host e.port q).andThen e.handOver).after
        (selection ++ started) := by
  obtain ⟨selection, q, select, quiet, selected⟩ := select_apply o e.secure p
  obtain ⟨started, run, only⟩ := reportStart_apply e q
  refine ⟨selection, started, q, select, selected, fun event h => ?_, ?_⟩
  · rcases List.mem_append.mp h with h | h
    · exact quiet event h
    · exact only event h
  · rw [dial, bind_of_ok select, bind_of_ok run, bind_ofExcept_apply]
    simp [Run.after]

theorem resolve_of_error {encode : HostEncoding} {r : Reference} {e : Failure}
    (h : Endpoint.ofReference encode r = .error e) (o : Overrides) (p : Environment) :
    resolve encode o r p = ⟨.error e, [], p⟩ := by
  rw [resolve, h]
  rfl

theorem resolve_of_ok {encode : HostEncoding} {r : Reference} {e : Endpoint}
    (h : Endpoint.ofReference encode r = .ok e) (o : Overrides) (p : Environment) :
    resolve encode o r p = dial o e p := by
  rw [resolve, h]
  rfl

end Dialer
