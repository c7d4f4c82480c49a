import Dialer.Proofs.Resolver.Histories
import Dialer.Proofs.Tls.OnDemand

/-!
# What calls share

The process-wide factories are created once, when they are first asked for, and a TLS factory that
was given no context builds one when it is first dialled through and keeps it.

* `Moment.DefaultLaw` says what a single moment does with a process-wide factory, and
  `Moment.SlotLaw` what it does with the slot of a factory (`defaultLaw`, `slotLaw`).
* `history_sharingLaw` says what follows for whole histories: one creation of each process-wide
  factory, one context for each slot, and a fresh attempt to build it after each failure.
-/

namespace Dialer

open Dialer.Action

variable {p q : Environment} {secure kind : Bool} {o : Overrides} {slot : Slot} {c : Context}

/-! ## Dials -/

/-- The run is a selection, which ends in the second environment, some reports and then a dial
through the factory. -/
def DialRun {α : Type} (f : Factory) (p q : Environment) (run : Run α) : Prop :=
  ∃ host port pre, ∃ give : Socket → Except Failure α, Selected p q ∧
    (∀ e ∈ pre, e.phase = .report) ∧ run = ((f.createSocket host port q).andThen give).after pre

section

variable {α : Type} {f : Factory} {run : Run α}

theorem DialRun.keeps_held (h : DialRun f p q run) (held : p.held slot = some c) :
    run.environment.held slot = some c := by
  obtain ⟨host, port, pre, give, around, -, rfl⟩ := h
  exact createSocket_keeps_held f (by rwa [around.held])

theorem DialRun.held (h : DialRun f p q run)
    (other : ∀ settings, f.opener ≠ .tls settings (.onDemand slot)) :
    run.environment.held slot = p.held slot := by
  obtain ⟨host, port, pre, give, around, -, rfl⟩ := h
  exact (createSocket_held other).trans (congrFun around.held slot)

theorem DialRun.usesOnly {settings : ConnectSettings} (h : DialRun f p q run)
    (opener : f.opener = .tls settings (.onDemand slot)) (held : p.held slot = some c) :
    ∀ e ∈ run.events, e.UsesOnly c := by
  obtain ⟨host, port, pre, give, around, only, rfl⟩ := h
  rw [createSocket_tls opener]
  refine usesOnly_append (usesOnly_of_reports only) ?_
  exact reuses_createTlsSocket settings host port (by rwa [around.held])

theorem DialRun.buildsFirst {settings : ConnectSettings} (h : DialRun f p q run)
    (opener : f.opener = .tls settings (.onDemand slot)) (vacant : p.held slot = none) :
    BuildsFirst slot p run := by
  obtain ⟨host, port, pre, give, around, quiet, rfl⟩ := h
  rw [createSocket_tls opener]
  have opened := buildsFirst_createTlsSocket settings host port
    ((congrFun around.held slot).trans vacant)
  have joined {reports : List Event} (only : ∀ e ∈ reports, e.phase = .report) :
      ∀ e ∈ pre ++ reports, e.phase = .report := fun e he =>
    (List.mem_append.mp he).elim (quiet e) (only e)
  -- What came before only reports and leaves the slot alone: it joins the reports of the attempt.
  cases opened with
  | failed only between attempt phase outcome events vacant =>
    refine .failed (joined only) (around.trans between) attempt phase ?_ ?_ vacant
    · simp [Run.after, Run.andThen, outcome, Except.bind]
    · simp [Run.after, Run.andThen, events]
  | built only between attempt phase events uses held =>
    refine .built (joined only) (around.trans between) attempt phase ?_ uses held
    simp [Run.after, Run.andThen, events]

theorem DialRun.phase_ne_context (h : DialRun f p q run)
    (held : ∀ settings slot, f.opener = .tls settings (.onDemand slot) → p.held slot ≠ none) :
    ∀ e ∈ run.events, e.phase ≠ .context := by
  obtain ⟨host, port, pre, give, around, only, rfl⟩ := h
  intro e he
  rcases List.mem_append.mp he with he | he
  · simp [only e he]
  · exact createSocket_phase_ne_context (by rwa [around.held]) e he

theorem DialRun.processWide (h : DialRun f p q run) :
    run.environment.processWide = q.processWide := by
  obtain ⟨host, port, pre, give, -, -, rfl⟩ := h
  obtain ⟨_, _, _, same⟩ := createSocket_around f host port q
  change (f.createSocket host port q).environment.processWide = q.processWide
  rw [same]

end

/-! ## Calls that dial -/

/-- Resolving an accepted reference dials through the factory that is selected. -/
theorem dialRun_resolve {encode : HostEncoding} {r : Reference} {e : Endpoint}
    (endpoint : Endpoint.ofReference encode r = .ok e) (o : Overrides) (p : Environment) :
    DialRun (o.factory p e.secure) p (o.select e.secure p).environment
      ((Value.target <$> resolve encode o r) p) := by
  obtain ⟨selection, started, q, select, around, quiet, run⟩ := dial_apply o e p
  refine ⟨e.host, e.port, selection ++ started, fun socket => (e.handOver socket).map .target, ?_,
    quiet, ?_⟩
  · rw [select]
    exact around
  · rw [map_apply, resolve_of_ok endpoint, run, select]
    cases h : ((o.factory p e.secure).createSocket e.host e.port q).outcome <;>
      simp [Run.map, Run.andThen, Run.after, Except.map, Except.bind, h]

namespace Moment

variable {m : Moment} {f : Factory} {s : Program} {resolver : Nat} {r : Reference}

/-- Nothing is done about a reference that is refused. -/
theorem run_of_error {e : Failure} (endpoint : Endpoint.ofReference s.encode r = .error e) :
    run ⟨s, .resolve resolver r⟩ = ⟨.error e, [], s.environment⟩ := by
  rw [run, Program.action, map_apply, resolve_of_error endpoint]
  rfl

theorem not_reaches_of_error {e : Failure} (endpoint : Endpoint.ofReference s.encode r = .error e) :
    ¬ Reaches ⟨s, .resolve resolver r⟩ secure := by
  rintro ⟨e', ok, -⟩
  cases endpoint.symm.trans ok

theorem reaches_iff_of_ok {e : Endpoint} (endpoint : Endpoint.ofReference s.encode r = .ok e) :
    Reaches ⟨s, .resolve resolver r⟩ secure ↔
      e.secure = secure ∧ (s.resolvers resolver).lacks secure = true := by
  constructor
  · rintro ⟨e', ok, h⟩
    obtain rfl := Except.ok.inj (endpoint.symm.trans ok)
    exact h
  · exact fun h => ⟨e, endpoint, h⟩

theorem selected?_of_error {e : Failure} (endpoint : Endpoint.ofReference s.encode r = .error e) :
    selected? ⟨s, .resolve resolver r⟩ = none := by
  simp only [selected?, endpoint]
  rfl

theorem selected?_of_ok {e : Endpoint} (endpoint : Endpoint.ofReference s.encode r = .ok e) :
    selected? ⟨s, .resolve resolver r⟩ =
      some ((s.resolvers resolver).factory s.environment e.secure) := by
  simp only [selected?, endpoint]
  exact select_outcome (s.resolvers resolver) e.secure s.environment

/-- A call that dials is a dial through that factory. -/
theorem dialRun (h : m.dialled? = some f) : ∃ q, DialRun f m.before.environment q m.run := by
  obtain ⟨s, call⟩ := m
  cases call with
  | resolve resolver r =>
    change selected? ⟨s, .resolve resolver r⟩ = some f at h
    cases endpoint : Endpoint.ofReference s.encode r with
    | error e =>
      rw [selected?_of_error endpoint] at h
      cases h
    | ok e =>
      rw [selected?_of_ok endpoint] at h
      obtain rfl := Option.some.inj h
      exact ⟨_, dialRun_resolve endpoint _ _⟩
  | createSocket factory host port =>
    obtain rfl : factory = f := Option.some.inj h
    exact ⟨s.environment, host, port, [], fun socket => .ok (.socket socket), .refl _, nofun,
      bind_ofExcept_apply _ (factory.createSocket host port) s.environment⟩
  | assign | select | askDefault | surround => cases h

/-- A call that does not dial leaves every slot as it is, and nothing but reports. -/
theorem idle_of_dialled?_eq_none (h : m.dialled? = none) :
    m.run.environment.held = m.before.environment.held ∧ ∀ e ∈ m.run.events, e.phase = .report := by
  obtain ⟨s, call⟩ := m
  cases call with
  | resolve resolver r =>
    change selected? ⟨s, .resolve resolver r⟩ = none at h
    cases endpoint : Endpoint.ofReference s.encode r with
    | error e =>
      rw [run_of_error endpoint]
      exact ⟨rfl, fun _ h => absurd h List.not_mem_nil⟩
    | ok e =>
      rw [selected?_of_ok endpoint] at h
      cases h
  | select resolver secure =>
    obtain ⟨_, q, run, only, around⟩ := select_apply (s.resolvers resolver) secure s.environment
    simp only [Moment.run, Program.action, map_apply, run]
    exact ⟨around.held, only⟩
  | askDefault secure =>
    obtain ⟨_, run, only⟩ := defaultFactory_apply secure s.environment
    simp only [Moment.run, Program.action, map_apply, run]
    exact ⟨(selected_withDefault s.environment secure).held, only⟩
  | createSocket => cases h
  | assign | surround => exact ⟨rfl, fun _ h => absurd h List.not_mem_nil⟩

/-! ## The process-wide factories -/

/-- **What a call leaves of the process-wide factory of a kind**: the one that there is to be, if it
comes down to that, and else the one that there was, if any. -/
theorem processWide_after (m : Moment) (kind : Bool) :
    (m.Reaches kind ∧ m.after.environment.processWide kind =
        some (m.before.environment.defaultNumber kind)) ∨
      (¬ m.Reaches kind ∧
        m.after.environment.processWide kind = m.before.environment.processWide kind) := by
  obtain ⟨s, call⟩ := m
  cases call with
  | resolve resolver r =>
    cases endpoint : Endpoint.ofReference s.encode r with
    | error e =>
      refine Or.inr ⟨not_reaches_of_error endpoint, ?_⟩
      rw [after, run_of_error endpoint]
    | ok e =>
      have dial := (dialRun_resolve endpoint (s.resolvers resolver) s.environment).processWide
      have left : (after ⟨s, .resolve resolver r⟩).environment.processWide = _ := dial
      rw [left, reaches_iff_of_ok endpoint]
      by_cases reached : e.secure = kind ∧ (s.resolvers resolver).lacks kind = true
      · obtain ⟨rfl, lacks⟩ := reached
        exact Or.inl ⟨⟨rfl, lacks⟩, processWide_select lacks s.environment⟩
      · exact Or.inr ⟨reached, processWide_select_of_not reached s.environment⟩
  | select resolver secure =>
    have left : (after ⟨s, .select resolver secure⟩).environment =
        ((s.resolvers resolver).select secure s.environment).environment := by
      simp only [after, Moment.run, Program.action, map_apply]
      rfl
    rw [left]
    by_cases reached : secure = kind ∧ (s.resolvers resolver).lacks kind = true
    · obtain ⟨rfl, lacks⟩ := reached
      exact Or.inl ⟨⟨rfl, lacks⟩, processWide_select lacks s.environment⟩
    · exact Or.inr ⟨reached, processWide_select_of_not reached s.environment⟩
  | askDefault secure =>
    have left : (after ⟨s, .askDefault secure⟩).environment = s.environment.withDefault secure := by
      simp only [after, Moment.run, Program.action, map_apply]
      exact defaultFactory_environment secure s.environment
    rw [left]
    by_cases same : secure = kind
    · subst same
      exact Or.inl ⟨rfl, s.environment.processWide_withDefault secure⟩
    · exact Or.inr ⟨same, s.environment.processWide_withDefault_of_ne (Ne.symm same)⟩
  | createSocket f host port =>
    obtain ⟨_, _, _, same⟩ := createSocket_around f host port s.environment
    refine Or.inr ⟨id, ?_⟩
    simp only [after, Moment.run, Program.action, map_apply, Run.map, same]
  | assign | surround => exact Or.inr ⟨id, rfl⟩

/-- A process-wide factory that there is stays. -/
theorem processWide_after_of_eq_some {number : Nat}
    (made : m.before.environment.processWide kind = some number) :
    m.after.environment.processWide kind = some number := by
  rcases m.processWide_after kind with ⟨-, left⟩ | ⟨-, left⟩
  · rw [left, Environment.defaultNumber, made]
    rfl
  · exact left.trans made

/-- **A process-wide factory exists after a call** if it did before or the call comes down to it. -/
theorem hasDefault_after (m : Moment) (kind : Bool) :
    m.after.environment.hasDefault kind = true ↔
      m.before.environment.hasDefault kind = true ∨ m.Reaches kind := by
  simp only [Environment.hasDefault]
  rcases m.processWide_after kind with ⟨reached, left⟩ | ⟨not, left⟩
  · rw [left]
    exact iff_of_true rfl (Or.inr reached)
  · rw [left, or_iff_left not]

/-- A call that comes down to a process-wide factory selects the one that it leaves. -/
theorem selected?_of_reaches (h : m.Reaches kind) : ∃ number,
    m.after.environment.processWide kind = some number ∧
      m.selected? = some (.processWide kind number) := by
  obtain ⟨-, left⟩ | ⟨not, -⟩ := m.processWide_after kind
  · refine ⟨_, left, ?_⟩
    obtain ⟨s, call⟩ := m
    cases call with
    | resolve resolver r =>
      obtain ⟨e, endpoint, rfl, lacks⟩ := h
      rw [selected?_of_ok endpoint, Overrides.factory_of_lacks lacks]
      rfl
    | select resolver secure =>
      obtain ⟨rfl, lacks⟩ := h
      have selected := select_outcome (s.resolvers resolver) secure s.environment
      rw [Overrides.factory_of_lacks lacks] at selected
      exact selected
    | askDefault secure =>
      obtain rfl : secure = kind := h
      obtain ⟨_, run, -⟩ := defaultFactory_apply secure s.environment
      simp only [selected?, run]
      rfl
    | assign | createSocket | surround => cases h
  · exact absurd h not

/-- A listener hears of the creation of a process-wide factory only in the call that creates it. -/
theorem unannounced (h : m.Reaches secure → m.before.environment.hasDefault secure = true) :
    Unannounced secure m.before.environment m.run.events m.run.environment := by
  obtain ⟨s, call⟩ := m
  cases call with
  | resolve resolver r =>
    cases endpoint : Endpoint.ofReference s.encode r with
    | error e =>
      rw [run_of_error endpoint]
      exact List.not_mem_nil
    | ok e =>
      simp only [Moment.run, Program.action, map_apply, resolve_of_ok endpoint]
      exact dial_unannounced fun kind lacks => h ⟨e, endpoint, kind, lacks⟩
  | select resolver kind =>
    simp only [Moment.run, Program.action, map_apply]
    exact select_unannounced fun same lacks => h ⟨same, by rwa [same]⟩
  | askDefault kind =>
    simp only [Moment.run, Program.action, map_apply]
    exact defaultFactory_unannounced h
  | createSocket f host port =>
    simp only [Moment.run, Program.action, map_apply]
    exact keeps_createSocket_unannounced secure f host port s.environment
  | assign | surround => exact List.not_mem_nil

/-- **What a call does with a process-wide factory.** -/
structure DefaultLaw (m : Moment) (secure : Bool) : Prop where
  /-- A call that comes down to it selects it, whether it exists or not. -/
  selected : m.Reaches secure → ∃ number, m.after.environment.processWide secure = some number ∧
    m.selected? = some (.processWide secure number)
  kept : ∀ number, m.before.environment.processWide secure = some number →
    m.after.environment.processWide secure = some number
  /-- It is created by a call that comes down to it, if it does not exist, and by no other. -/
  created : m.creates secure = true ↔
    m.Reaches secure ∧ m.before.environment.hasDefault secure = false
  /-- A listener hears of its creation in no other call. -/
  announced : .log (creationRecord secure) ∈ m.run.events → m.creates secure = true

theorem defaultLaw (m : Moment) (secure : Bool) : m.DefaultLaw secure := by
  have exist := m.hasDefault_after secure
  have created : m.creates secure = true ↔
      m.Reaches secure ∧ m.before.environment.hasDefault secure = false := by
    rw [creates, Bool.and_eq_true, Bool.not_eq_true', exist]
    constructor
    · rintro ⟨vacant, made | reached⟩
      · cases vacant.symm.trans made
      · exact ⟨reached, vacant⟩
    · rintro ⟨reached, vacant⟩
      exact ⟨vacant, Or.inr reached⟩
  refine ⟨selected?_of_reaches, fun _ => processWide_after_of_eq_some, created,
    fun announced => ?_⟩
  -- A call that hears of a creation but makes none would be one that comes down to an existing one.
  by_contra not
  refine unannounced (fun reached => ?_) announced
  rw [created, not_and, Bool.not_eq_false] at not
  exact not reached

/-! ## Slots -/

/-- **What a call does with a slot.** -/
structure SlotLaw (m : Moment) (slot : Slot) : Prop where
  untouched : ¬ m.DialsThrough slot → m.after.environment.held slot = m.before.environment.held slot
  /-- A context stays for good. -/
  kept : ∀ c, m.before.environment.held slot = some c → m.after.environment.held slot = some c
  /-- A dial through the factory of a vacant slot begins with one attempt to build a context, and no
  other context is created. -/
  vacant : m.DialsThrough slot → m.before.environment.held slot = none →
    BuildsFirst slot m.before.environment m.run ∧ m.run.events.countP Event.createsContext = 1
  /-- Once there is a context, a dial builds none and uses only that. -/
  held : ∀ c, m.DialsThrough slot → m.before.environment.held slot = some c →
    ∀ e ∈ m.run.events, e.UsesOnly c

theorem slotLaw (m : Moment) (slot : Slot) : m.SlotLaw slot where
  untouched idle := by
    cases dialled : m.dialled? with
    | none => exact congrFun (idle_of_dialled?_eq_none dialled).1 slot
    | some f =>
      obtain ⟨q, dial⟩ := dialRun dialled
      exact dial.held fun settings opener => idle ⟨f, settings, dialled, opener⟩
  kept c held := by
    cases dialled : m.dialled? with
    | none => exact (congrFun (idle_of_dialled?_eq_none dialled).1 slot).trans held
    | some f =>
      obtain ⟨q, dial⟩ := dialRun dialled
      exact dial.keeps_held held
  vacant := by
    rintro ⟨f, settings, dialled, opener⟩ vacant
    obtain ⟨q, dial⟩ := dialRun dialled
    have builds := dial.buildsFirst opener vacant
    exact ⟨builds, builds.countP⟩
  held := by
    rintro c ⟨f, settings, dialled, opener⟩ held
    obtain ⟨q, dial⟩ := dialRun dialled
    exact dial.usesOnly opener held

/-- **Only dials through vacant slots build anything.** -/
theorem vacant_of_createsContext {e : Event} (he : e ∈ m.run.events)
    (creates : e.createsContext = true) :
    ∃ slot, m.DialsThrough slot ∧ m.before.environment.held slot = none := by
  by_contra none
  have quiet : e.phase ≠ .context := by
    cases dialled : m.dialled? with
    | none => simp [(idle_of_dialled?_eq_none dialled).2 e he]
    | some f =>
      obtain ⟨q, dial⟩ := dialRun dialled
      refine dial.phase_ne_context (fun settings slot opener vacant => none ?_) e he
      exact ⟨slot, ⟨f, settings, dialled, opener⟩, vacant⟩
  rw [Event.createsContext_of_phase quiet] at creates
  cases creates

end Moment

/-! ## Histories -/

theorem countP_creates_le (s : Program) (calls : List Call) (secure : Bool) :
    (s.history calls).countP (·.creates secure) ≤
      if s.environment.hasDefault secure then 0 else 1 := by
  -- The bound is for any start: it drops to none as soon as the factory exists.
  induction calls generalizing s with
  | nil => exact Nat.zero_le _
  | cons call calls ih =>
    let m : Moment := ⟨s, call⟩
    have rest := ih m.after
    rw [Program.history_cons, List.countP_cons]
    cases before : s.environment.hasDefault secure with
    | true =>
      have creates : m.creates secure = false := by rw [Moment.creates, before]; rfl
      rw [(m.hasDefault_after secure).mpr (Or.inl before)] at rest
      rw [creates]
      exact rest
    | false =>
      have creates : m.creates secure = m.after.environment.hasDefault secure := by
        rw [Moment.creates, before]
        rfl
      rw [creates]
      cases made : m.after.environment.hasDefault secure with
      | true =>
        rw [made] at rest
        exact Nat.add_le_add_right rest 1
      | false =>
        rw [made] at rest
        exact rest

/-- A slot is left as it is between two dials through its factory. -/
theorem held_of_isChain {m next : Moment} {between rest : List Moment}
    (chain : (m :: (between ++ next :: rest)).IsChain fun m next => m.after = next.before)
    (idle : ∀ other ∈ between, ¬ other.DialsThrough slot) :
    next.before.environment.held slot = m.after.environment.held slot := by
  induction between generalizing m with
  | nil => rw [(List.isChain_cons_cons.mp chain).1]
  | cons other between ih =>
    obtain ⟨joined, chain⟩ := List.isChain_cons_cons.mp chain
    have untouched := (other.slotLaw slot).untouched (idle other List.mem_cons_self)
    rw [ih chain fun o ho => idle o (List.mem_cons_of_mem _ ho), untouched, joined]

/-- **What calls share**, over a whole history. -/
structure SharingLaw (moments : List Moment) : Prop where
  defaults : ∀ m ∈ moments, ∀ secure, m.DefaultLaw secure
  /-- Each process-wide factory is created at most once. -/
  createdOnce : ∀ secure, moments.countP (·.creates secure) ≤ 1
  /-- All calls that come down to it select the same factory. -/
  same : ∀ secure, moments.Pairwise fun m later =>
    m.Reaches secure → later.Reaches secure → later.selected? = m.selected?
  slots : ∀ m ∈ moments, ∀ slot, m.SlotLaw slot
  /-- A context is built for a vacant slot only, in a dial through its factory. -/
  built : ∀ m ∈ moments, ∀ e ∈ m.run.events, e.createsContext = true →
    ∃ slot, m.DialsThrough slot ∧ m.before.environment.held slot = none
  /-- Once a slot has a context, it has it for good, and dials through its factory use only that. -/
  settled : ∀ slot c, moments.Pairwise fun m later => m.after.environment.held slot = some c →
    later.after.environment.held slot = some c ∧
      (later.DialsThrough slot → ∀ e ∈ later.run.events, e.UsesOnly c)
  /-- As long as a slot has none, the next dial through its factory builds one. -/
  retried : ∀ slot before m between next rest, moments = before ++ m :: (between ++ next :: rest) →
    m.after.environment.held slot = none → (∀ other ∈ between, ¬ other.DialsThrough slot) →
    next.DialsThrough slot → BuildsFirst slot next.before.environment next.run

/-- A slot that has a context keeps it for the rest of a history, in which it alone is used. -/
theorem settled_of_held {s : Program} (held : s.environment.held slot = some c)
    (calls : List Call) :
    ∀ later ∈ s.history calls, later.after.environment.held slot = some c ∧
      (later.DialsThrough slot → ∀ e ∈ later.run.events, e.UsesOnly c) := by
  intro later hl
  have before := Program.forall_mem_history (fun s => s.environment.held slot = some c)
    (fun m => (m.slotLaw slot).kept c) held calls later hl
  exact ⟨(later.slotLaw slot).kept c before, fun dials => (later.slotLaw slot).held c dials before⟩

theorem pairwise_settled (s : Program) (calls : List Call) (slot : Slot) (c : Context) :
    (s.history calls).Pairwise fun m later => m.after.environment.held slot = some c →
      later.after.environment.held slot = some c ∧
        (later.DialsThrough slot → ∀ e ∈ later.run.events, e.UsesOnly c) := by
  induction calls generalizing s with
  | nil => exact .nil
  | cons call calls ih =>
    rw [Program.history_cons, List.pairwise_cons]
    exact ⟨fun later hl held => settled_of_held held calls later hl, ih _⟩

/-- A process-wide factory that there is is selected by all calls that come down to it. -/
theorem selected?_of_processWide {s : Program} {number : Nat}
    (made : s.environment.processWide secure = some number) (calls : List Call) :
    ∀ later ∈ s.history calls, later.Reaches secure →
      later.selected? = some (.processWide secure number) := by
  intro later hl reached
  have before :=
    Program.forall_mem_history (fun s => s.environment.processWide secure = some number)
    (fun m => (m.defaultLaw secure).kept number) made calls later hl
  obtain ⟨number', left, selected⟩ := (later.defaultLaw secure).selected reached
  rw [(later.defaultLaw secure).kept number before] at left
  rw [selected, Option.some.inj left]

theorem pairwise_same (s : Program) (calls : List Call) (secure : Bool) :
    (s.history calls).Pairwise fun m later =>
      m.Reaches secure → later.Reaches secure → later.selected? = m.selected? := by
  induction calls generalizing s with
  | nil => exact .nil
  | cons call calls ih =>
    rw [Program.history_cons, List.pairwise_cons]
    refine ⟨fun later hl reached reached' => ?_, ih _⟩
    obtain ⟨number, left, selected⟩ := (Moment.defaultLaw ⟨s, call⟩ secure).selected reached
    rw [selected, selected?_of_processWide left calls later hl reached']

/-- **Process-wide factories are created once, and contexts kept for good**, whatever the calls are
and however they fail. -/
theorem history_sharingLaw (s : Program) (calls : List Call) : SharingLaw (s.history calls) where
  defaults m _ secure := m.defaultLaw secure
  createdOnce secure := by
    refine (countP_creates_le s calls secure).trans ?_
    split
    · exact Nat.zero_le 1
    · exact Nat.le_refl 1
  same := pairwise_same s calls
  slots m _ slot := m.slotLaw slot
  built _ _ _ he creates := Moment.vacant_of_createsContext he creates
  settled := pairwise_settled s calls
  retried slot before m between next rest split vacant idle dials := by
    have chain := s.isChain_history calls
    rw [split] at chain
    have still := held_of_isChain chain.right_of_append idle
    exact ((next.slotLaw slot).vacant dials (still.trans vacant)).1

/-- A context that cannot be configured at first is built anew in the next dial, which may be on
behalf of another resolver, and is there from then on. -/
example :
    let nobody : Network := .of fun _ _ => .found []
    let broken : TlsPlatform := { faults := fun _ => some ⟨.interrupt, []⟩ }
    let r : Reference := .url { scheme := some "wss".toText, host := some "h".toText }
    let s : Program :=
      ⟨.asciiOnly, fun _ => {},
        { network := nobody, platform := broken, logging := ⟨10, 30, [.listener]⟩ }⟩
    (s.history [.resolve 0 r, .surround nobody {}, .resolve 1 r, .resolve 0 r]).map
      (·.run.events.countP Event.createsContext) = [1, 0, 1, 0] := by
  decide +kernel

end Dialer
