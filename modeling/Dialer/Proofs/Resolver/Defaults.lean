import Dialer.Proofs.Resolver.Stages

/-!
# Process-wide factories

There is one process-wide factory for TLS and one for plain connections. It is created when it is
first asked for, by name or by a selection that no override comes before.

* `select_eq` says when selection comes down to it, and `select_environment` what that changes.
* `creationRecord` is what a listener hears of a creation. `keeps_createSocket_unannounced` and its
  siblings say that nothing else sounds like it.
-/

namespace Dialer

open Dialer.Action

/-- No override comes before the process-wide factory. -/
def Overrides.lacks (o : Overrides) (secure : Bool) : Bool :=
  if secure then o.context.isNone && o.tlsFactory.isNone else o.plainFactory.isNone

namespace Environment

/-- Whether the process-wide factory of a kind exists. -/
def hasDefault (p : Environment) (secure : Bool) : Bool := (p.processWide secure).isSome

theorem processWide_withDefault (p : Environment) (secure : Bool) :
    (p.withDefault secure).processWide secure = some (p.defaultNumber secure) := by
  unfold withDefault defaultNumber
  cases made : p.processWide secure with
  | some number => simpa using made
  | none => simp [createDefault]

theorem processWide_withDefault_of_ne (p : Environment) {secure kind : Bool} (h : kind ≠ secure) :
    (p.withDefault secure).processWide kind = p.processWide kind := by
  unfold withDefault
  split
  · rfl
  · exact if_neg h

end Environment

variable {p : Environment} {secure kind : Bool} {o : Overrides}

/-! ## Creation -/

theorem defaultFactory_environment (secure : Bool) (p : Environment) :
    (defaultFactory secure p).environment = p.withDefault secure := by
  obtain ⟨_, run, -⟩ := defaultFactory_apply secure p
  rw [run]

theorem Overrides.factory_of_lacks (h : o.lacks secure = true) :
    o.factory p secure = p.default secure := by
  obtain ⟨plain, tls, context⟩ := o
  cases secure with
  | false => cases plain <;> simp_all [Overrides.lacks, Overrides.factory]
  | true => cases context <;> cases tls <;> simp_all [Overrides.lacks, Overrides.factory]

/-- **Selection comes down to the process-wide factory or does nothing.** -/
theorem select_eq (o : Overrides) (secure : Bool) (p : Environment) : o.select secure p =
    if o.lacks secure then defaultFactory secure p else ⟨.ok (o.factory p secure), [], p⟩ := by
  obtain ⟨plain, tls, context⟩ := o
  cases secure with
  | false => cases plain <;> rfl
  | true => cases context <;> cases tls <;> rfl

/-- Selection creates a process-wide factory if it comes down to it, and changes nothing else. -/
theorem select_environment (o : Overrides) (secure : Bool) (p : Environment) :
    (o.select secure p).environment = if o.lacks secure then p.withDefault secure else p := by
  rw [select_eq]
  by_cases lacks : o.lacks secure = true
  · rw [if_pos lacks, if_pos lacks, defaultFactory_environment]
  · rw [if_neg lacks, if_neg lacks]

/-- Selection that comes down to the process-wide factory of a kind leaves it behind. -/
theorem processWide_select (lacks : o.lacks secure = true) (p : Environment) :
    (o.select secure p).environment.processWide secure = some (p.defaultNumber secure) := by
  rw [select_environment, if_pos lacks, Environment.processWide_withDefault]

/-- Any other leaves the process-wide factories of the kind as they are. -/
theorem processWide_select_of_not (h : ¬ (secure = kind ∧ o.lacks kind = true)) (p : Environment) :
    (o.select secure p).environment.processWide kind = p.processWide kind := by
  rw [select_environment]
  split
  next lacks =>
    refine p.processWide_withDefault_of_ne ?_
    rintro rfl
    exact h ⟨rfl, lacks⟩
  next => rfl

theorem select_outcome (o : Overrides) (secure : Bool) (p : Environment) :
    (o.select secure p).outcome.toOption = some (o.factory p secure) := by
  obtain ⟨_, _, run, -⟩ := select_apply o secure p
  rw [run]
  rfl

/-! ## Announcements -/

/-- The record of the creation of a process-wide factory. -/
def creationRecord (secure : Bool) : Record where
  level := .debug
  logger := .factory
  message := creationMessage secure

/-- The law that no listener hears of the creation of a process-wide factory. -/
def Unannounced (secure : Bool) (_ : Environment) (events : List Event) (_ : Environment) : Prop :=
  .log (creationRecord secure) ∉ events

theorem chains_unannounced (secure : Bool) : Chains (Unannounced secure) where
  nil _ := List.not_mem_nil
  append before after h := (List.mem_append.mp h).elim before after

/-- Only reports announce anything. -/
theorem unannounced_of_phase {events : List Event} {q : Environment}
    (h : ∀ e ∈ events, e.phase ≠ .report) : Unannounced secure p events q := fun announced =>
  h _ announced rfl

theorem keeps_perform_unannounced {e : Event} (h : e.phase ≠ .report) (fault : Option Fault) :
    Keeps (Unannounced secure) (perform e fault) := fun _ => unannounced_of_phase fun e' he => by
  rwa [List.mem_singleton.mp he]

/-- A report announces its own record only. -/
theorem keeps_report_unannounced {level : Level} {logger : Logger} {message : Text}
    (h : ⟨level, logger, message⟩ ≠ creationRecord secure) :
    Keeps (Unannounced secure) (report level logger message) := by
  refine Keeps.report (chains_unannounced secure) level logger message fun p sink announced => ?_
  have same := List.mem_singleton.mp announced
  cases sink with
  | listener => exact h (Event.log.inj same).symm
  | stamped | labelled => cases same

/-- A text that begins with one letter is not a text that begins with another. -/
theorem append_ne_of_head? {s t : Text} {a b : CodePoint} (rest : Text)
    (front : s.head? = some a) (other : t.head? = some b) (h : a ≠ b) :
    s ++ rest ≠ t := by
  rintro rfl
  rw [List.head?_append, front] at other
  exact h (Option.some.inj other)

theorem handshakeMessage_ne_creation (secure : Bool) (host : Text) (port : Int) :
    handshakeMessage host port ≠ (creationRecord secure).message := by
  have front : "TLS handshake with ".toText.head? = some (char 'T') := by decide
  have other : (creationRecord secure).message.head? = some (char 'C') := by
    cases secure <;> rfl
  -- The message begins with a fixed text, which all appending is moved behind.
  delta handshakeMessage
  simp only [List.append_assoc]
  exact append_ne_of_head? _ front other (by decide)

/-- Asking for one process-wide factory does not announce the other, nor one that exists. -/
theorem defaultFactory_unannounced (h : kind = secure → p.hasDefault secure = true) :
    Unannounced secure p (defaultFactory kind p).events (defaultFactory kind p).environment := by
  have chains := chains_unannounced secure
  by_cases same : kind = secure
  · subst same
    obtain ⟨number, made⟩ := Option.isSome_iff_exists.mp (h rfl)
    simp [defaultFactory, bind_apply, environment, made, pure_apply, Unannounced]
  · have reported : Keeps (Unannounced secure) (report .debug .factory (creationMessage kind)) :=
      keeps_report_unannounced (by revert same; cases kind <;> cases secure <;> decide)
    have asked : Keeps (Unannounced secure) (defaultFactory kind) := by
      refine Keeps.bind chains (Keeps.environment chains) fun p => ?_
      cases p.processWide kind with
      | some number => exact Keeps.pure chains _
      | none =>
        refine Keeps.bind chains reported fun _ => ?_
        refine Keeps.bind chains (fun _ => List.not_mem_nil) fun _ => ?_
        exact Keeps.bind chains (Keeps.environment chains) fun _ => Keeps.pure chains _
    exact asked p

/-- Selection is not announced unless it creates the process-wide factory. -/
theorem select_unannounced
    (h : kind = secure → o.lacks secure = true → p.hasDefault secure = true) :
    Unannounced secure p (o.select kind p).events (o.select kind p).environment := by
  rw [select_eq]
  by_cases lacks : o.lacks kind = true
  · rw [if_pos lacks]
    refine defaultFactory_unannounced ?_
    rintro rfl
    exact h rfl lacks
  · rw [if_neg lacks]
    exact List.not_mem_nil

/-- Opening a socket is not announced as a creation. -/
theorem keeps_createSocket_unannounced (secure : Bool) (f : Factory) (host : Text) (port : Int) :
    Keeps (Unannounced secure) (f.createSocket host port) := by
  have chains := chains_unannounced secure
  have connected (settings : ConnectSettings) :
      Keeps (Unannounced secure) (connect settings host port) := by
    refine fun p => unannounced_of_phase fun e he => ?_
    rcases connect_phase settings host port p e he with h | h <;> simp [h]
  obtain ⟨origin, settings | ⟨settings, source⟩ | ⟨name, fault, faults⟩⟩ := f
  · intro p
    rw [createSocket_plain]
    exact connected settings p
  · rw [createSocket_tls rfl]
    refine keeps_createTlsSocket chains settings source host port ?_ (connected settings) ?_ ?_
    · refine ContextLaw.keeps_context ⟨chains, ?_, ?_⟩ ?_ ?_ source
      · exact fun e phase fault => keeps_perform_unannounced (by simp [phase]) fault
      · exact fun _ => List.not_mem_nil
      · exact keeps_report_unannounced (by cases secure <;> decide)
      · exact fun _ _ _ => List.not_mem_nil
    · exact fun e phase fault =>
        keeps_perform_unannounced (by rcases phase with h | h <;> simp [h]) fault
    · refine keeps_report_unannounced fun same => ?_
      exact handshakeMessage_ne_creation secure host port (congrArg Record.message same)
  · intro p
    rw [createSocket_supplied]
    refine unannounced_of_phase fun e he => ?_
    cases fault <;> rw [List.mem_singleton.mp he] <;> exact nofun

/-- Dialling is announced only if selection creates the process-wide factory. -/
theorem dial_unannounced {e : Endpoint}
    (h : e.secure = secure → o.lacks secure = true → p.hasDefault secure = true) :
    Unannounced secure p (dial o e p).events (dial o e p).environment := by
  have chains := chains_unannounced secure
  have selection := select_unannounced h
  obtain ⟨reports, q, run, -⟩ := select_apply o e.secure p
  rw [run] at selection
  rw [dial, bind_of_ok run]
  refine chains.append selection ?_
  refine Keeps.bind chains ?_ (fun _ => ?_) q
  · rw [reportStart]
    split
    next => exact keeps_report_unannounced fun same => by cases congrArg Record.logger same
    next => exact Keeps.pure chains ()
  · exact Keeps.bind chains (keeps_createSocket_unannounced secure _ _ _) fun _ =>
      Keeps.ofExcept chains _

end Dialer
