import Dialer.Proofs.Tls.Building

/-!
# What contexts verify

A TLS context is handed out only when every step of its configuration has succeeded, so that none
verifies less than was asked for.

* `Tls.testBit_optionsFrom` says that the options of a context are those of the platform together
  with those asked for.
* `Tls.Requirement.Means` and `Tls.ContextConfig.Loads` say which requirement and which certificates
  a configuration asks for.
* `Event.verifies` tells which steps bear on what a context verifies, and
  `Tls.filter_verifies_steps` lists those of the building of a context.
* `buildContext_failsClosed` says what building a context does and when it gives one.
-/

namespace Dialer

open Dialer.Action

namespace Tls

/-! ## Options -/

theorem xor_and_eq_ldiff (m n : Nat) : n ^^^ (m &&& n) = n.ldiff m := by
  refine Nat.eq_of_testBit_eq fun i => ?_
  rw [Nat.testBit_xor, Nat.testBit_and, Nat.testBit_ldiff]
  cases m.testBit i <;> cases n.testBit i <;> rfl

theorem unionBits_eq_lor (m n : Int) : unionBits m n = m.lor n := by
  cases m with
  | ofNat m =>
    cases n with
    | ofNat n => rfl
    | negSucc n => exact congrArg Int.negSucc (xor_and_eq_ldiff m n)
  | negSucc m =>
    cases n with
    | ofNat n =>
      refine congrArg Int.negSucc ?_
      rw [Nat.and_comm, xor_and_eq_ldiff]
    | negSucc n => rfl

/-- The number that a negative one gives way to has the same bits up to its width. -/
theorem testBit_negSucc_add {m width i : Nat} (fits : m < 2 ^ width) (inside : i < width) :
    (Int.negSucc m + Int.ofNat (1 <<< width)).testBit i = (Int.negSucc m).testBit i := by
  have positive : Int.negSucc m + Int.ofNat (1 <<< width) = Int.ofNat (2 ^ width - (m + 1)) := by
    rw [Nat.shiftLeft_eq, one_mul]
    simp only [Int.ofNat_eq_natCast]
    omega
  rw [positive]
  change Nat.testBit _ i = !Nat.testBit m i
  rw [Nat.testBit_two_pow_sub_succ fits, decide_eq_true inside, Bool.true_and]

theorem testBit_withoutCompression (initial : Int) {i : Nat} (h : i < optionBits) :
    (withoutCompression initial).testBit i = (initial.lor noCompression).testBit i := by
  unfold withoutCompression
  rw [unionBits_eq_lor]
  dsimp only
  split
  next negative =>
    generalize initial.lor noCompression = joined at negative ⊢
    obtain ⟨m, rfl⟩ := Int.eq_negSucc_of_lt_zero negative
    have below : m + 1 < 2 ^ ((m + 1).log2 + 1) := Nat.lt_log2_self
    refine testBit_negSucc_add ?_ (Nat.lt_of_lt_of_le h (Nat.le_max_left _ _))
    exact Nat.lt_of_lt_of_le (Nat.lt_of_succ_lt below)
      (Nat.pow_le_pow_right Nat.two_pos (Nat.le_max_right _ _))
  next => rfl

theorem withoutCompression_of_nonneg {initial : Int} (h : 0 ≤ initial) :
    withoutCompression initial = initial.lor noCompression := by
  obtain ⟨n, rfl⟩ := Int.eq_ofNat_of_zero_le h
  unfold withoutCompression
  rw [unionBits_eq_lor]
  exact if_neg (by simp [Int.lor, noCompression])

/-- **The options of a context** are those of the platform and those asked for, or else the one
against compression. Only a negative number of the platform's, to which nothing is said, loses its
bits beyond the width of a set of options. -/
theorem testBit_optionsFrom (initial : Int) (more : Option Int) {i : Nat}
    (h : i < optionBits ∨ more ≠ none ∨ 0 ≤ initial) :
    (optionsFrom initial more).testBit i =
      (initial.testBit i || (more.getD noCompression).testBit i) := by
  rw [← Int.testBit_lor]
  cases more with
  | some more => exact congrArg (Int.testBit · i) (unionBits_eq_lor initial more)
  | none =>
    rcases h with inside | absent | positive
    · exact testBit_withoutCompression initial inside
    · exact absurd rfl absent
    · exact congrArg (Int.testBit · i) (withoutCompression_of_nonneg positive)

/-! ## Requirements -/

/-- The requirement stands for the constant. A name that stands for none is completed. -/
inductive Requirement.Means (constants : Text → Option Constant) : Requirement → Constant → Prop
  | unstated : Means constants .unstated (.number 2)
  | number (n : Int) : Means constants (.number n) (.number n)
  | named {name : Text} {constant : Constant} (known : constants name = some constant) :
      Means constants (.named name) constant
  | completed {name : Text} {constant : Constant} (unknown : constants name = none)
      (known : constants ("CERT_".toText ++ name) = some constant) :
      Means constants (.named name) constant

/-- The requirement is a name that stands for no constant, not even when it is completed. -/
structure Requirement.Unknown (constants : Text → Option Constant) (r : Requirement) (name : Text) :
    Prop where
  named : r = .named name
  unknown : constants name = none
  incomplete : constants ("CERT_".toText ++ name) = none

section

variable {constants : Text → Option Constant} {r : Requirement} {constant : Constant} {name : Text}

theorem Requirement.Means.resolve (h : r.Means constants constant) :
    r.resolve constants = .ok constant := by
  cases h with
  | unstated | number => rfl
  | named known => simp [Requirement.resolve, known]
  | completed unknown known => simp only [Requirement.resolve, unknown, known, Option.none_or]

theorem Requirement.Unknown.resolve (h : r.Unknown constants name) :
    r.resolve constants = .error (.unknownRequirement name) := by
  obtain ⟨rfl, unknown, incomplete⟩ := h
  simp only [Requirement.resolve, unknown, incomplete, Option.none_or]

theorem Requirement.means_or_unknown (constants : Text → Option Constant) (r : Requirement) :
    (∃ constant, r.Means constants constant) ∨ ∃ name, r.Unknown constants name := by
  cases r with
  | unstated => exact Or.inl ⟨_, .unstated⟩
  | number n => exact Or.inl ⟨_, .number n⟩
  | named name =>
    cases first : constants name with
    | some constant => exact Or.inl ⟨constant, .named first⟩
    | none =>
      cases second : constants ("CERT_".toText ++ name) with
      | some constant => exact Or.inl ⟨constant, .completed first second⟩
      | none => exact Or.inr ⟨name, rfl, first, second⟩

/-- A name of another family of constants may stand for no verification at all. -/
example : (Requirement.named "VERIFY_DEFAULT".toText).resolve standardConstant =
    .ok (.number noCertificate) :=
  (Requirement.Means.named (by decide +kernel)).resolve

end

/-- The certificates that a configuration asks for: those of a file that is named, or else the
bundled ones. -/
inductive ContextConfig.Loads (config : ContextConfig) : Authorities → Prop
  | file {path} (named : config.authorities = some path) (nonempty : path ≠ []) :
      Loads config (.file path)
  | bundled (unnamed : ∀ path ∈ config.authorities, path = []) : Loads config .bundled

theorem ContextConfig.loads_authoritiesOf (config : ContextConfig) :
    config.Loads (authoritiesOf config.authorities) := by
  cases named : config.authorities with
  | none => exact .bundled (by simp [named])
  | some path =>
    cases path with
    | nil => exact .bundled (by simp [named])
    | cons c path => exact .file named (List.cons_ne_nil c path)

end Tls

/-! ## Steps that bear on verification -/

/-- Whether the step bears on what a context verifies. -/
def Event.verifies : Event → Bool
  | .assign _ (.checkHostname _) | .assign _ (.verifyMode _) | .loadAuthorities .. => true
  | _ => false

/-- The steps that bear on what a context verifies, in turn. -/
def Tls.verifying (c : Context) (requirement : Constant) (authorities : Authorities) : List Event :=
  if requirement = .number 0 then
    [.assign c.name (.checkHostname false), .assign c.name (.verifyMode requirement)]
  else [.assign c.name (.verifyMode requirement), .loadAuthorities c.name authorities]

theorem Tls.filter_verifies_steps (config : ContextConfig) (platform : TlsPlatform) (c : Context)
    (requirement : Constant) (authorities : Authorities) :
    ((config.steps platform c requirement authorities).map Prod.fst).filter Event.verifies =
      verifying c requirement authorities := by
  have optional {β : Type} (o : Option β) (f : β → Event × Option Fault)
      (h : ∀ b, (f b).1.verifies = false) :
      ((o.toList.map f).map Prod.fst).filter Event.verifies = [] := by
    cases o with
    | none => rfl
    | some b => simp [h]
  have conditional (b : Prop) [Decidable b] (step : Event × Option Fault)
      (h : step.1.verifies = false) :
      ((if b then [step] else []).map Prod.fst).filter Event.verifies = [] := by
    split <;> simp [h]
  unfold ContextConfig.steps ContextConfig.setUp ContextConfig.settings TlsPlatform.loading
    verifying
  simp only [List.flatten_cons, List.flatten_nil, List.cons_append, List.map_cons, List.map_append]
  rw [List.filter_cons_of_neg (by exact Bool.false_ne_true),
    List.filter_cons_of_neg (by exact Bool.false_ne_true)]
  simp only [List.filter_append, List.map_nil, List.nil_append]
  rw [conditional (platform.postHandshakeAuth = true) _ rfl,
    List.filter_cons_of_pos (by exact rfl), List.filter_append, List.filter_append,
    List.filter_append,
    optional config.minimumVersion _ fun _ => rfl, optional config.maximumVersion _ fun _ => rfl,
    conditional ((!(config.ciphers.getD []).isEmpty) = true) _ rfl]
  change _ = if requirement = .number noCertificate then _ else _
  split <;> rfl

/-! ## Building -/

/-- The building of the context `c` fails closed, where it is known what its requirement and its
certificates are. -/
structure Tls.FailsClosed (config : ContextConfig) (platform : TlsPlatform) (c : Context)
    (requirement : Constant) (authorities : Authorities) (run : Run Context) : Prop where
  /-- The context is created, set up and given certificates, up to the first step that fails. -/
  events : run.events = (config.steps platform c requirement authorities).events
  options : ∀ i, i < optionBits ∨ config.options ≠ none ∨ 0 ≤ platform.initialOptions →
    (optionsFrom platform.initialOptions config.options).testBit i =
      (platform.initialOptions.testBit i || (config.options.getD noCompression).testBit i)
  /-- The context is given if no step fails, and only then. -/
  returned : ∀ c', run.outcome = .ok c' ↔
    c' = c ∧ ∀ step ∈ config.steps platform c requirement authorities, step.2 = none
  /-- The fault of a step is handed through. -/
  setUp : ∀ f, (config.setUp platform c requirement).fault? = some f →
    run.outcome = .error (.fault f)
  /-- So is that of loading certificates, unless the operating system is at fault. -/
  loading : (config.setUp platform c requirement).fault? = none →
    ∀ f, (platform.loading c requirement authorities).fault? = some f →
      run.outcome = .error (if f.kind.isA .os then .noAuthorities (.fault f) else .fault f)
  /-- However it ends, nothing else has been done to what is verified. -/
  verifying : run.events.filter Event.verifies <+: verifying c requirement authorities
  verified : run.outcome = .ok c →
    run.events.filter Event.verifies = Tls.verifying c requirement authorities

namespace Tls

theorem failsClosed_buildContext {config : ContextConfig} {p : Environment} {requirement : Constant}
    (h : config.requirement.resolve p.platform.constants = .ok requirement) :
    FailsClosed config p.platform (.built (p.contexts + 1)) requirement
      (authoritiesOf config.authorities) (buildContext config p) := by
  rw [buildContext_of_resolved config p h]
  generalize Context.built (p.contexts + 1) = c
  generalize authoritiesOf config.authorities = authorities
  have whole : (config.steps p.platform c requirement authorities).fault? =
      (config.setUp p.platform c requirement).fault?.or
        (p.platform.loading c requirement authorities).fault? := Plan.fault?_append _ _
  refine ⟨rfl, fun i => testBit_optionsFrom _ _, fun c' => ?_, fun f failed => ?_,
    fun settled f failed => ?_, ?_, fun given => ?_⟩
  · rw [← Plan.fault?_eq_none_iff, whole]
    cases (config.setUp p.platform c requirement).fault? with
    | some f => simp
    | none =>
      cases (p.platform.loading c requirement authorities).fault? with
      | some f => simp
      | none => simp [eq_comm]
  · rw [failed]
  · rw [settled, failed]
    rfl
  · rw [← filter_verifies_steps config p.platform]
    exact (Plan.events_prefix _).filter Event.verifies
  · have fine : (config.steps p.platform c requirement authorities).fault? = none := by
      rw [whole]
      split at given
      next => cases given
      next => cases given
      next settled loaded => rw [settled, loaded]; rfl
    rw [← filter_verifies_steps config p.platform, ← Plan.events_of_fault?_eq_none fine]

end Tls

/-- **Building a context fails closed**, whatever is asked for and whatever the platform does. If
the requirement has an unknown name, it ends after the creation. Otherwise the steps are taken in
turn up to the first that fails, and the context is given only if none does: host names go unchecked
only where no certificate is asked for, which is settled before the mode is, and everywhere else the
context has the mode asked for and the certificates asked for. -/
theorem buildContext_failsClosed (config : Tls.ContextConfig) (p : Environment) :
    let c := Context.built (p.contexts + 1)
    let run := Tls.buildContext config p
    run.environment = { p with contexts := p.contexts + 1 } ∧
    ((∃ requirement authorities, config.requirement.Means p.platform.constants requirement ∧
        config.Loads authorities ∧
        Tls.FailsClosed config p.platform c requirement authorities run) ∨
      ∃ name, config.requirement.Unknown p.platform.constants name ∧
        run.events = [.newContext c.name] ∧
        run.outcome =
          .error ((p.platform.faults .create).elim (.unknownRequirement name) .fault)) := by
  intro c run
  obtain ⟨_, _, same, -⟩ := buildContext_apply config p
  refine ⟨congrArg Run.environment same, ?_⟩
  rcases config.requirement.means_or_unknown p.platform.constants with
    ⟨requirement, means⟩ | ⟨name, unknown⟩
  · refine Or.inl ⟨requirement, _, means, config.loads_authoritiesOf, ?_⟩
    exact Tls.failsClosed_buildContext means.resolve
  · have refused : run = _ := Tls.buildContext_of_unresolved config p unknown.resolve
    rw [refused]
    exact Or.inr ⟨name, unknown, rfl, rfl⟩

/-- A file that is named but cannot be read, for certificates that are optional. -/
theorem buildContext_failsClosed_namedFile :
    let config : Tls.ContextConfig :=
      { requirement := .named "OPTIONAL".toText, authorities := some "/ca.pem".toText }
    let missing : Fault := ⟨.fileNotFound, []⟩
    let platform : TlsPlatform :=
      { faults := fun step => if step = .authorities then some missing else none }
    let p : Environment :=
      { network := .of fun _ _ => .found [], platform, logging := ⟨10, 30, []⟩ }
    let run := Tls.buildContext config p
    run.outcome = .error (.noAuthorities (.fault missing)) ∧
    run.events = [.newContext (.built 1), .assign (.built 1) (.options 131072),
      .assign (.built 1) (.postHandshakeAuth true), .assign (.built 1) (.verifyMode (.number 1)),
      .loadAuthorities (.built 1) (.file "/ca.pem".toText)] := by
  intro config missing platform p run
  have prefixed : p.platform.constants "OPTIONAL".toText = none := by decide +kernel
  have known : p.platform.constants ("CERT_".toText ++ "OPTIONAL".toText) = some (.number 1) := by
    decide +kernel
  obtain ⟨-, ⟨requirement, authorities, means, loads, closed⟩ | ⟨name, unknown, -⟩⟩ :=
    buildContext_failsClosed config p
  · have requirement_eq : requirement = .number 1 := by
      have resolved := (Tls.Requirement.Means.completed prefixed known).resolve
      exact Except.ok.inj (means.resolve.symm.trans resolved)
    have authorities_eq : authorities = .file "/ca.pem".toText := by
      cases loads with
      | file named => exact congrArg _ (Option.some.inj named).symm
      | bundled unnamed => cases unnamed _ rfl
    subst requirement_eq authorities_eq
    exact ⟨closed.loading (by decide) missing (by decide), closed.events.trans (by decide)⟩
  · obtain ⟨named, -, incomplete⟩ := unknown
    obtain rfl : "OPTIONAL".toText = name := Tls.Requirement.named.inj named
    cases known.symm.trans incomplete

end Dialer
