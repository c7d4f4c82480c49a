import Dialer.Proofs.Tls.Layering

/-!
# Building contexts

What building a TLS context does, as a list of steps of which each may fail, and how it ends.

* `Tls.ContextConfig.settings` lists the settings of a context, `Tls.ContextConfig.setUp` all steps
  before certificates are loaded, and `Tls.ContextConfig.steps` all steps there are.
  `buildContext_of_resolved` says that they are taken in turn up to the first that fails.
* `TlsPlatform.setUpFault?` is the fault of the first step of a default context that fails before
  certificates are loaded, and `buildContext_default` the run of the building of one.
* `context_reported_iff` says on which platforms every failure to get hold of a default context is
  reported as such.
-/

namespace Dialer

open Dialer.Action

/-! ## Plans that open an action -/

/-- The action takes the steps of the plan and then goes on as `rest`. -/
def Opens {α : Type} (p : Environment) (x : Action α) (plan : Plan) (rest : Action α) : Prop :=
  x p = (plan.perform >>= fun _ => rest) p

namespace Opens

variable {α : Type} {p : Environment} {x y z : Action α} {plan plan' : Plan}

theorem refl (p : Environment) (x : Action α) : Opens p x [] x := rfl

/-- Steps leave the environment as it is, so that they may be split anywhere. -/
theorem append (h : Opens p x plan y) (h' : Opens p y plan' z) : Opens p x (plan ++ plan') z := by
  unfold Opens at h h' ⊢
  rw [Plan.perform_append, bind_assoc, h, bind_apply, bind_apply, plan.perform_apply]
  cases plan.outcome with
  | error e => rfl
  | ok u => simp only [h']

theorem ofExcept {β : Type} {b : β} {c : Except Failure β} {f : β → Action α} (hc : c = .ok b)
    (h : Opens p (f b) plan y) : Opens p (ofExcept c >>= f) plan y := hc ▸ h

theorem environment {f : Environment → Action α} (h : Opens p (f p) plan y) :
    Opens p (environment >>= f) plan y := h

theorem step (s : ContextStep) (e : Event) (f : Unit → Action α) :
    Opens p (Context.step s e >>= f) [(e, p.platform.faults s)] (f ()) := by
  rw [Opens, Plan.perform_singleton]
  rfl

/-- A step that is taken under a condition. -/
theorem ite_step (c : Prop) [Decidable c] (s : ContextStep) (e : Event) (f : Unit → Action α) :
    Opens p (if c then Context.step s e >>= f else f ())
      (if c then [(e, p.platform.faults s)] else []) (f ()) := by
  split
  · exact step s e f
  · exact refl p (f ())

/-- A step that is taken if there is something to set. -/
theorem forM_step {β : Type} (o : Option β) (s : ContextStep) (e : β → Event)
    (f : Unit → Action α) :
    Opens p (o.forM (fun b => Context.step s (e b)) >>= f)
      (o.toList.map fun b => (e b, p.platform.faults s)) (f ()) := by
  cases o with
  | none => exact refl p (f ())
  | some b => exact step s (e b) f

end Opens

/-! ## Configurations -/

/-- The settings of a context, in turn. -/
def Tls.ContextConfig.settings (config : ContextConfig) (platform : TlsPlatform) (c : Context)
    (requirement : Constant) : Plan :=
  let assign (setting : Setting) := (Event.assign c.name setting, platform.faults setting.step)
  let ciphers := config.ciphers.getD []
  List.flatten [
    [assign (.options (optionsFrom platform.initialOptions config.options))],
    if platform.postHandshakeAuth then [assign (.postHandshakeAuth true)] else [],
    if requirement = .number noCertificate then [assign (.checkHostname false)] else [],
    [assign (.verifyMode requirement)],
    config.minimumVersion.toList.map fun version => assign (.minimumVersion version),
    config.maximumVersion.toList.map fun version => assign (.maximumVersion version),
    if !ciphers.isEmpty then [(.setCiphers c.name ciphers, platform.faults .ciphers)] else []]

/-- The creation of a context and its settings. -/
def Tls.ContextConfig.setUp (config : ContextConfig) (platform : TlsPlatform) (c : Context)
    (requirement : Constant) : Plan :=
  (.newContext c.name, platform.faults .create) :: config.settings platform c requirement

/-- The loading of certificates, if any are asked for. -/
def TlsPlatform.loading (platform : TlsPlatform) (c : Context) (requirement : Tls.Constant)
    (authorities : Authorities) : Plan :=
  if requirement = .number Tls.noCertificate then []
  else [(.loadAuthorities c.name authorities, platform.faults .authorities)]

/-- All steps of the building of a context. -/
def Tls.ContextConfig.steps (config : ContextConfig) (platform : TlsPlatform) (c : Context)
    (requirement : Constant) (authorities : Authorities) : Plan :=
  config.setUp platform c requirement ++ platform.loading c requirement authorities

namespace Tls

variable (config : ContextConfig) (c : Context) (p : Environment)

theorem opens_configure {requirement : Constant}
    (h : config.requirement.resolve p.platform.constants = .ok requirement) :
    Opens p (configure config c) (config.settings p.platform c requirement)
      (do
        if requirement ≠ .number noCertificate then loadAuthorities c config.authorities
        return c) := by
  unfold configure
  refine .environment (.ofExcept h ?_)
  -- one after the other, as they stand in `settings`
  refine .append (.step _ _ _) ?_
  refine .append (.ite_step _ _ _ _) ?_
  refine .append (.ite_step _ _ _ _) ?_
  refine .append (.step _ _ _) ?_
  refine .append (.forM_step _ _ _ _) ?_
  refine .append (.forM_step _ _ _ _) ?_
  exact .append (.ite_step _ _ _ _) (.refl _ _)

theorem loadAuthorities_apply (authorities : Option Text) :
    loadAuthorities c authorities p =
      ⟨match p.platform.faults .authorities with
        | some f => .error (loadFailure (.fault f))
        | none => .ok (), [.loadAuthorities c.name (authoritiesOf authorities)], p⟩ := by
  have run : (c.loadAuthorities (authoritiesOf authorities)) p =
      ⟨match p.platform.faults .authorities with
        | some f => .error (.fault f)
        | none => .ok (), [.loadAuthorities c.name (authoritiesOf authorities)], p⟩ := rfl
  rw [loadAuthorities, bind_apply, attempt_apply, run]
  cases p.platform.faults .authorities <;> rfl

/-- The end of a configuration. -/
theorem load_apply (requirement : Constant) :
    (do
      if requirement ≠ .number noCertificate then loadAuthorities c config.authorities
      return c : Action Context) p =
      ⟨match (p.platform.loading c requirement (authoritiesOf config.authorities)).fault? with
        | some f => .error (loadFailure (.fault f))
        | none => .ok c,
        (p.platform.loading c requirement (authoritiesOf config.authorities)).events, p⟩ := by
  unfold TlsPlatform.loading
  by_cases unchecked : requirement = .number noCertificate
  · rw [if_neg (not_not.mpr unchecked), if_pos unchecked]
    rfl
  · rw [if_pos unchecked, if_neg unchecked, bind_apply, loadAuthorities_apply]
    cases p.platform.faults .authorities <;> rfl

/-- A configuration takes its steps up to the first that fails. The fault of that step stands,
unless it is the loading of certificates. -/
theorem configure_of_resolved {requirement : Constant}
    (h : config.requirement.resolve p.platform.constants = .ok requirement) :
    configure config c p =
      ⟨match (config.settings p.platform c requirement).fault?,
          (p.platform.loading c requirement (authoritiesOf config.authorities)).fault? with
        | some f, _ => .error (.fault f)
        | none, some f => .error (loadFailure (.fault f))
        | none, none => .ok c,
        (config.settings p.platform c requirement ++
          p.platform.loading c requirement (authoritiesOf config.authorities)).events, p⟩ := by
  rw [opens_configure config c p h, bind_apply, Plan.perform_apply, Plan.outcome]
  simp only [load_apply, Plan.events_append]
  cases (config.settings p.platform c requirement).fault? with
  | some f => rfl
  | none =>
    dsimp only
    cases (p.platform.loading c requirement (authoritiesOf config.authorities)).fault? <;> rfl

theorem configure_of_unresolved {e : Failure}
    (h : config.requirement.resolve p.platform.constants = .error e) :
    configure config c p = ⟨.error e, [], p⟩ := by
  have start : configure config c p =
      (ofExcept (config.requirement.resolve p.platform.constants) >>= _) p := rfl
  rw [start, h]
  rfl

/-- **A context is built** by taking all steps up to the first that fails, if it is known what its
requirement stands for. -/
theorem buildContext_of_resolved {requirement : Constant}
    (h : config.requirement.resolve p.platform.constants = .ok requirement) :
    let c := Context.built (p.contexts + 1)
    let authorities := authoritiesOf config.authorities
    buildContext config p =
      ⟨match (config.setUp p.platform c requirement).fault?,
          (p.platform.loading c requirement authorities).fault? with
        | some f, _ => .error (.fault f)
        | none, some f => .error (loadFailure (.fault f))
        | none, none => .ok c,
        (config.steps p.platform c requirement authorities).events,
        { p with contexts := p.contexts + 1 }⟩ := by
  intro c authorities
  have configured := configure_of_resolved config (.built (p.contexts + 1))
    { p with contexts := p.contexts + 1 } h
  rw [buildContext, bind_apply, newContext_apply, ContextConfig.steps, ContextConfig.setUp]
  cases create : p.platform.faults .create with
  | some f => rfl
  | none =>
    simp only [configured]
    rfl

/-- If it is not known, nothing is done after the creation. -/
theorem buildContext_of_unresolved {e : Failure}
    (h : config.requirement.resolve p.platform.constants = .error e) :
    buildContext config p =
      ⟨.error ((p.platform.faults .create).elim e .fault),
        [.newContext (Context.built (p.contexts + 1)).name],
        { p with contexts := p.contexts + 1 }⟩ := by
  have configured := configure_of_unresolved config (.built (p.contexts + 1))
    { p with contexts := p.contexts + 1 } h
  rw [buildContext, bind_apply, newContext_apply]
  cases create : p.platform.faults .create with
  | some f => rfl
  | none =>
    simp only [configured]
    rfl

end Tls

/-! ## Default contexts -/

/-- The settings of a default context, in turn. -/
def TlsPlatform.defaultSettings (platform : TlsPlatform) : List Setting :=
  List.flatten [
    [.options (Tls.withoutCompression platform.initialOptions)],
    if platform.postHandshakeAuth then [.postHandshakeAuth true] else [],
    [.verifyMode (.number Tls.certificateRequired)]]

/-- The steps of a default context before certificates are loaded. -/
def TlsPlatform.defaultSteps (platform : TlsPlatform) : List ContextStep :=
  .create :: platform.defaultSettings.map Setting.step

/-- The fault of the first of them that fails. -/
def TlsPlatform.setUpFault? (platform : TlsPlatform) : Option Fault :=
  platform.defaultSteps.findSome? platform.faults

theorem setUp_default (platform : TlsPlatform) (c : Context) :
    ({} : Tls.ContextConfig).setUp platform c (.number Tls.certificateRequired) =
      (.newContext c.name, platform.faults .create) :: platform.defaultSettings.map fun setting =>
        (Event.assign c.name setting, platform.faults setting.step) := by
  unfold Tls.ContextConfig.setUp Tls.ContextConfig.settings TlsPlatform.defaultSettings
  cases platform.postHandshakeAuth <;> rfl

theorem fault?_setUp_default (platform : TlsPlatform) (c : Context) :
    (({} : Tls.ContextConfig).setUp platform c (.number Tls.certificateRequired)).fault? =
      platform.setUpFault? := by
  rw [setUp_default, Plan.fault?, TlsPlatform.setUpFault?, TlsPlatform.defaultSteps,
    List.findSome?_cons, List.findSome?_cons, List.findSome?_map, List.findSome?_map]
  rfl

theorem fault?_loading_default (platform : TlsPlatform) (c : Context) :
    (platform.loading c (.number Tls.certificateRequired) .bundled).fault? =
      platform.faults .authorities := by
  change [_].findSome? Prod.snd = _
  rw [List.findSome?_singleton]

/-- The steps of the building of a default context. -/
def TlsPlatform.defaultPlan (platform : TlsPlatform) (c : Context) : Plan :=
  ({} : Tls.ContextConfig).steps platform c (.number Tls.certificateRequired) .bundled

/-- **Building a default context** takes its steps up to the first that fails. -/
theorem buildContext_default (p : Environment) :
    let c := Context.built (p.contexts + 1)
    Tls.buildContext {} p =
      ⟨match p.platform.setUpFault?, p.platform.faults .authorities with
        | some f, _ => .error (.fault f)
        | none, some f => .error (Tls.loadFailure (.fault f))
        | none, none => .ok c, (p.platform.defaultPlan c).events,
        { p with contexts := p.contexts + 1 }⟩ := by
  intro c
  rw [← fault?_setUp_default p.platform c, ← fault?_loading_default p.platform c]
  exact Tls.buildContext_of_resolved {} p rfl

/-- The events of a default context that is built in full. -/
def defaultEvents (platform : TlsPlatform) (c : Context) : List Event :=
  .newContext c.name :: (platform.defaultSettings.map (.assign c.name) ++
    [.loadAuthorities c.name .bundled])

/-- A default context is never left half configured. -/
theorem events_of_buildContext_default {p q : Environment} {c : Context} {build : List Event}
    (h : Tls.buildContext {} p = ⟨.ok c, build, q⟩) :
    p.platform.setUpFault? = none ∧ p.platform.faults .authorities = none ∧
      build = defaultEvents p.platform c := by
  obtain ⟨outcome, rfl, -⟩ := Run.mk.inj ((buildContext_default p).symm.trans h)
  cases settings : p.platform.setUpFault? with
  | some f => simp [settings] at outcome
  | none =>
    cases loading : p.platform.faults .authorities with
    | some f => simp [settings, loading] at outcome
    | none =>
      simp only [settings, loading, Except.ok.injEq] at outcome
      subst outcome
      refine ⟨rfl, rfl, ?_⟩
      rw [Plan.events_of_fault?_eq_none]
      · rw [TlsPlatform.defaultPlan, Tls.ContextConfig.steps, setUp_default, List.map_append,
          List.map_cons, List.map_map]
        rfl
      · rw [TlsPlatform.defaultPlan, Tls.ContextConfig.steps, Plan.fault?_append,
          fault?_setUp_default, fault?_loading_default, settings, loading]
        rfl

theorem Failure.kind_loadFailure (f : Fault) :
    (Tls.loadFailure (.fault f)).kind = .noDefault ↔ f.kind.isA .os = true := by
  unfold Tls.loadFailure
  by_cases os : (Failure.fault f).isOs = true
  · rw [if_pos os]
    exact iff_of_true rfl os
  · rw [if_neg os]
    refine iff_of_false (fun same => os ?_) os
    -- the kind itself is one of the operating system's
    rw [isOs, same]
    rfl

/-! ## Getting hold of contexts -/

section

variable {slot : Slot} {p : Environment}

theorem outcome_context_of_held {c : Context} (held : p.held slot = some c) :
    ((ContextSource.onDemand slot).context p).outcome = .ok c := by
  have provision := provision_context slot p
  generalize (ContextSource.onDemand slot).context p = run at provision ⊢
  cases provision with
  | held held' =>
    cases held.symm.trans held'
    rfl
  | built vacant | failed vacant => cases vacant.symm.trans held

theorem outcome_context_of_vacant (vacant : p.held slot = none) :
    ((ContextSource.onDemand slot).context p).outcome = (Tls.buildContext {} p).outcome := by
  have provision := provision_context slot p
  generalize (ContextSource.onDemand slot).context p = run at provision ⊢
  cases provision with
  | held held => cases vacant.symm.trans held
  | built _ _ attempt | failed _ _ attempt => rw [attempt]

theorem silent_context_of_vacant {c : Context} (vacant : p.held slot = none)
    (outcome : ((ContextSource.onDemand slot).context p).outcome = .ok c) :
    silent ((ContextSource.onDemand slot).context p).events = defaultEvents p.platform c := by
  have provision := provision_context slot p
  generalize (ContextSource.onDemand slot).context p = run at provision outcome ⊢
  cases provision with
  | held held => cases vacant.symm.trans held
  | built _ only attempt =>
    cases outcome
    rw [silent_built only attempt]
    exact (events_of_buildContext_default attempt).2.2
  | failed => cases outcome

end

/-- **When a default context that cannot be had is reported as such.** -/
theorem context_reported_iff (slot : Slot) (p : Environment) :
    let run := (ContextSource.onDemand slot).context p
    ((∀ e, run.outcome = .error e → e.kind = .noDefault) ↔
      (p.held slot = none →
        (∀ f, p.platform.setUpFault? = some f → f.kind = .noDefault) ∧
        (p.platform.setUpFault? = none →
          ∀ f, p.platform.faults .authorities = some f → f.kind.isA .os = true))) ∧
    (∀ c, p.held slot = none → run.outcome = .ok c →
      silent run.events = defaultEvents p.platform c) ∧
    ∀ e settings host port, run.outcome = .error e →
      (createTlsSocket settings (.onDemand slot) host port p).outcome = .error e := by
  intro run
  refine ⟨?_, fun c => silent_context_of_vacant, fun e settings host port failed => ?_⟩
  · cases held : p.held slot with
    | some c => simp [run, outcome_context_of_held held]
    | none =>
      rw [show run.outcome = _ from outcome_context_of_vacant held, buildContext_default]
      cases p.platform.setUpFault? with
      | some f => simp [Failure.kind]
      | none =>
        cases p.platform.faults .authorities with
        | some f => simp [Failure.kind_loadFailure]
        | none => simp
  · have creation := tlsCreation_createTlsSocket settings (.onDemand slot) host port p
    rcases context : run with ⟨outcome, built, q⟩
    rw [context] at failed
    rw [creation.noContext_inv (context.trans (congrArg (Run.mk · built q) failed))]

/-- An operating system that denies the setting of what is verified is not reported as the lack of a
default context, neither to who asks for the context nor to who dials. -/
theorem context_unreported_verifyMode :
    let denied : Fault := ⟨.permission, [.number 13, .text "Permission denied".toText]⟩
    let platform : TlsPlatform :=
      { faults := fun step => if step = .verifyMode then some denied else none }
    let p : Environment :=
      { network := .of fun _ _ => .found [], platform, logging := ⟨10, 30, []⟩ }
    let run := (ContextSource.onDemand .processWide).context p
    let dial := Factory.createSocket (.processWide true 1) "example.com".toText 443 p
    denied.kind.isA .os = true ∧ denied.kind ≠ .noDefault ∧
      run.outcome = .error (.fault denied) ∧ dial.outcome = .error (.fault denied) ∧
      run.events = [.newContext (.built 1), .assign (.built 1) (.options 131072),
        .assign (.built 1) (.postHandshakeAuth true), 
        .assign (.built 1) (.verifyMode (.number 2))] := by
  intro denied platform p run dial
  exact ⟨rfl, by decide, rfl, rfl, by decide⟩

end Dialer
