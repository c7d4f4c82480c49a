import Dialer.Proofs.Resolver.Sessions

/-!
# Precedence of overrides

A call looks at the overrides of its own resolver alone, and among these only at the ones that come
first for its kind of connection. Nothing else of what a program has assigned can be told from
outside.

* `Overrides.relevant` are the overrides that a selection looks at (`select_relevant`), and
  `Overrides.relevantTo` those that resolving a reference does (`resolve_relevantTo`).
* `Overrides.last` are the overrides that assignments leave, whatever was called between them
  (`last_cons`).
* `requests` are the calls of a run with the overrides relevant to each. `replay_requests` says that
  they alone determine what the run does, and `noninterference` compares two runs by them.
-/

namespace Dialer

open Dialer.Action

/-! ## Relevant overrides -/

/-- The overrides that come first for TLS or plain connections. Behind a context, the factory for
TLS connections does not count. -/
def Overrides.relevant (o : Overrides) (secure : Bool) : Overrides :=
  if secure then
    match o.context with
    | some context => { context := some context }
    | none => { tlsFactory := o.tlsFactory }
  else { plainFactory := o.plainFactory }

/-- The overrides that come first for a reference, which are none if it is refused. -/
def Overrides.relevantTo (encode : HostEncoding) (o : Overrides) (r : Reference) : Overrides :=
  match Endpoint.ofReference encode r with
  | .ok e => o.relevant e.secure
  | .error _ => {}

theorem select_relevant (o : Overrides) (secure : Bool) :
    (o.relevant secure).select secure = o.select secure := by
  obtain ⟨plain, tls, context⟩ := o
  cases secure with
  | false => rfl
  | true => cases context <;> rfl

theorem dial_relevant (o : Overrides) (e : Endpoint) : dial (o.relevant e.secure) e = dial o e := by
  rw [dial, dial, select_relevant]

/-- **Resolving looks at the relevant overrides only.** -/
theorem resolve_relevantTo (encode : HostEncoding) (o : Overrides) (r : Reference) :
    resolve encode (o.relevantTo encode r) r = resolve encode o r := by
  funext p
  cases endpoint : Endpoint.ofReference encode r with
  | error e => rw [resolve_of_error endpoint, resolve_of_error endpoint]
  | ok e =>
    rw [resolve_of_ok endpoint, resolve_of_ok endpoint, Overrides.relevantTo, endpoint]
    exact congrFun (dial_relevant o e) p

/-! ## Last assignments -/

/-- The factory for plain connections that is assigned, if that is what is assigned. -/
def Assignment.plainFactory? : Assignment → Option (Option Factory)
  | .plainFactory factory => some factory
  | _ => none

/-- The factory for TLS connections that is assigned, if that is what is assigned. -/
def Assignment.tlsFactory? : Assignment → Option (Option Factory)
  | .tlsFactory factory => some factory
  | _ => none

/-- The context that is assigned, if that is what is assigned. -/
def Assignment.context? : Assignment → Option (Option Context)
  | .context c => some c
  | _ => none

/-- What the call assigns to the resolver, if that is of the kind that `value?` reads. -/
def Call.assigned? {α : Type} (value? : Assignment → Option α) (resolver : Nat) : Call → Option α
  | .assign other assignment => if other = resolver then value? assignment else none
  | _ => none

/-- Whether the call is an assignment. -/
def Call.assigns : Call → Bool
  | .assign .. => true
  | _ => false

/-- The last values assigned to a resolver in calls, of which the latest comes first. What has never
been assigned has its initial value. -/
def Overrides.last (initial : Overrides) (resolver : Nat) (past : List Call) : Overrides where
  plainFactory := (past.findSome? (Call.assigned? Assignment.plainFactory? resolver)).getD
    initial.plainFactory
  tlsFactory := (past.findSome? (Call.assigned? Assignment.tlsFactory? resolver)).getD
    initial.tlsFactory
  context := (past.findSome? (Call.assigned? Assignment.context? resolver)).getD initial.context

/-- **Only assignments count**, and each for its resolver and its field. -/
theorem last_cons (encode : HostEncoding) (initial : Nat → Overrides) (past : List Call)
    (call : Call) (p : Environment) :
    Program.resolversAfter ⟨encode, fun i => (initial i).last i past, p⟩ call =
      fun i => (initial i).last i (call :: past) := by
  cases call with
  | assign resolver assignment =>
    funext i
    by_cases same : resolver = i
    · subst same
      rw [Program.resolversAfter, Function.update_self]
      cases assignment <;>
        simp [Overrides.assign, Overrides.last, Call.assigned?, Assignment.plainFactory?,
          Assignment.tlsFactory?, Assignment.context?]
    · rw [Program.resolversAfter, Function.update_of_ne (Ne.symm same)]
      simp [Overrides.last, Call.assigned?, same]
  | _ => rfl

/-! ## Requests -/

/-- A call and the overrides that are relevant to it. -/
structure Request where
  overrides : Overrides
  call : Call

/-- What the call asks for, where the resolvers have the given overrides. Which resolver it is does
not matter otherwise. -/
def Call.request? (encode : HostEncoding) (values : Nat → Overrides) : Call → Option Request
  | .resolve resolver r => some ⟨(values resolver).relevantTo encode r, .resolve 0 r⟩
  | .select resolver secure => some ⟨(values resolver).relevant secure, .select 0 secure⟩
  | .assign .. => none
  | call => some ⟨{}, call⟩

/-- The run of a request by a program whose resolvers have no other overrides. -/
def Request.run (encode : HostEncoding) (q : Request) (p : Environment) : Run Value :=
  Moment.run ⟨⟨encode, fun _ => q.overrides, p⟩, q.call⟩

/-- The requests of calls that come after others, of which the latest comes first. -/
def requests (encode : HostEncoding) (initial : Nat → Overrides) :
    List Call → List Call → List Request
  | _, [] => []
  | past, call :: calls =>
    (call.request? encode fun i => (initial i).last i past).toList ++
      requests encode initial (call :: past) calls

/-- The runs of requests in turn, and the environment after them. -/
def replay (encode : HostEncoding) : List Request → Environment → List (Run Value) × Environment
  | [], p => ([], p)
  | q :: qs, p =>
    let run := q.run encode p
    let rest := replay encode qs run.environment
    (run :: rest.1, rest.2)

namespace Program

/-- The runs of the calls that are no assignments. -/
def observed (s : Program) (calls : List Call) : List (Run Value) :=
  ((s.history calls).filter (!·.call.assigns)).map Moment.run

/-- The program after calls. -/
def final : Program → List Call → Program
  | s, [] => s
  | s, call :: calls => (Moment.after ⟨s, call⟩).final calls

theorem observed_cons (s : Program) (call : Call) (calls : List Call) :
    s.observed (call :: calls) = (if call.assigns then [] else [Moment.run ⟨s, call⟩]) ++
      (Moment.after ⟨s, call⟩).observed calls := by
  rw [observed, history_cons, List.filter_cons]
  cases call.assigns <;> rfl

end Program

/-- An assignment asks for nothing and does nothing to the outside. -/
theorem request?_of_assigns {s : Program} {call : Call} (h : call.assigns = true) :
    call.request? s.encode s.resolvers = none ∧
      (Moment.after ⟨s, call⟩).environment = s.environment := by
  cases call with
  | assign resolver assignment => exact ⟨rfl, rfl⟩
  | _ => cases h

/-- **Any other call does what its request does.** -/
theorem request?_of_not_assigns {s : Program} {call : Call} (h : call.assigns = false) :
    ∃ q, call.request? s.encode s.resolvers = some q ∧
      q.run s.encode s.environment = Moment.run ⟨s, call⟩ := by
  cases call with
  | assign resolver assignment => cases h
  | resolve resolver r =>
    refine ⟨_, rfl, ?_⟩
    simp only [Request.run, Moment.run, Program.action, resolve_relevantTo]
  | select resolver secure =>
    refine ⟨_, rfl, ?_⟩
    simp only [Request.run, Moment.run, Program.action, select_relevant]
  | askDefault | createSocket | surround => exact ⟨_, rfl, rfl⟩

/-- **A run is determined by its requests**, and leaves every resolver with the last values assigned
to it. -/
theorem replay_requests (initial : Nat → Overrides) (past calls : List Call) (s : Program)
    (values : s.resolvers = fun i => (initial i).last i past) :
    replay s.encode (requests s.encode initial past calls) s.environment =
        (s.observed calls, (s.final calls).environment) ∧
      (s.final calls).resolvers = fun i => (initial i).last i (calls.reverse ++ past) := by
  induction calls generalizing past s with
  | nil => exact ⟨rfl, values⟩
  | cons call calls ih =>
    obtain ⟨encode, resolvers, p⟩ := s
    obtain rfl : resolvers = _ := values
    obtain ⟨runs, left⟩ := ih (call :: past) (Moment.after ⟨⟨encode, _, p⟩, call⟩)
      (last_cons encode initial past call p)
    rw [List.reverse_cons, List.append_assoc, requests, Program.observed_cons]
    refine ⟨?_, left⟩
    cases assigns : call.assigns with
    | true =>
      obtain ⟨none, same⟩ :=
        request?_of_assigns (s := ⟨encode, fun i => (initial i).last i past, p⟩) assigns
      rw [same] at runs
      simp only [none, Option.toList_none, List.nil_append, if_true]
      exact runs
    | false =>
      obtain ⟨q, some, same⟩ :=
        request?_of_not_assigns (s := ⟨encode, fun i => (initial i).last i past, p⟩) assigns
      simp only [some, Option.toList_some, List.singleton_append, replay, same]
      simp only [Moment.after] at runs ⊢
      rw [runs]
      rfl

/-! ## Sessions -/

/-- Whether the step assigns overrides. -/
def Step.assigns : Step → Bool
  | .assign .. | .configure _ => true
  | _ => false

theorem Step.yields_run (s : Session) {step : Step} (h : step.assigns = false) :
    Yields (step.run s) fun next => next.1.overrides = s.overrides := by
  have showing {x : Action Factory} :
      Yields (x >>= s.showFactory) fun next => next.1.overrides = s.overrides :=
    Yields.bind fun _ => Yields.bind fun _ => Yields.pure rfl
  have handing {x : Action Target} :
      Yields (s.handOut <$> x) fun next => next.1.overrides = s.overrides := by
    rw [map_eq_pure_bind]
    exact Yields.bind fun _ => Yields.pure rfl
  cases step with
  | assign | configure => cases h
  | resolve | resolveWith => exact handing
  | select | askDefault => exact showing
  | derive context name =>
    simp only [Step.run]
    cases s.context? context with
    | some c => exact Yields.pure rfl
    | none => exact Yields.pure rfl
  | createSocket factory | contextOf factory | describe factory =>
    simp only [Step.run]
    cases s.factory? factory with
    | some f => exact Yields.bind fun _ => Yields.pure rfl
    | none => exact Yields.pure rfl
  | close target | within target =>
    simp only [Step.run]
    cases s.target? target with
    | some t => exact Yields.bind fun _ => Yields.pure rfl
    | none => exact Yields.pure rfl
  | makeTarget | replacePlatform | replaceNetwork | logToStderr =>
    exact Yields.bind fun _ => Yields.pure rfl

/-- **Only an assignment changes the overrides of a session**, whether a step fails or not. -/
theorem Session.overrides_advance (s : Session) (p : Environment) {step : Step}
    (h : step.assigns = false) : (s.advance p step).2.1.overrides = s.overrides := by
  have kept := step.yields_run s h p
  rw [Session.advance]
  cases outcome : (step.run s p).outcome with
  | error e => rfl
  | ok next => exact kept next outcome

/-! ## Noninterference -/

/-- **What is not relevant cannot be told from outside.** Two runs from the same environment, over
any calls on any resolvers, see the same if their calls ask for the same: if they have the same
overrides where they are relevant, which are the ones last assigned to the resolver in question.
Besides assignments nothing changes overrides. No selection fails, and none creates anything but the
process-wide factory that it comes down to. -/
theorem noninterference (encode : HostEncoding) (p : Environment)
    {initial initial' : Nat → Overrides} {calls calls' : List Call}
    (agree : requests encode initial [] calls = requests encode initial' [] calls') :
    (Program.observed ⟨encode, initial, p⟩ calls = Program.observed ⟨encode, initial', p⟩ calls' ∧
      (Program.final ⟨encode, initial, p⟩ calls).environment =
        (Program.final ⟨encode, initial', p⟩ calls').environment) ∧
    ((Program.final ⟨encode, initial, p⟩ calls).resolvers =
      fun i => (initial i).last i calls.reverse) ∧
    (∀ (s : Session) (q : Environment) (step : Step), step.assigns = false →
      (s.advance q step).2.1.overrides = s.overrides) ∧
    ∀ (o : Overrides) (secure : Bool) (q : Environment),
      (o.select secure q).outcome = .ok (o.factory q secure) ∧
      (o.select secure q).environment = if o.lacks secure then q.withDefault secure else q := by
  obtain ⟨runs, resolvers⟩ := replay_requests initial [] calls ⟨encode, initial, p⟩ rfl
  obtain ⟨runs', -⟩ := replay_requests initial' [] calls' ⟨encode, initial', p⟩ rfl
  have same := runs.symm.trans ((congrArg (replay encode · p) agree).trans runs')
  rw [List.append_nil] at resolvers
  refine ⟨Prod.mk.inj same, resolvers, fun s q step h => s.overrides_advance q h,
    fun o secure q => ⟨?_, select_environment o secure q⟩⟩
  obtain ⟨_, _, run, -⟩ := select_apply o secure q
  rw [run]

/-- A run with a context for one resolver, and another with further assignments all around: to a
factory that the context comes before, to overrides that are assigned anew, and to a resolver that
then makes a plain connection. -/
theorem noninterference_assignments :
    let context : Context := .given "trusted".toText none
    let factory : Factory := ⟨.made 0, .supplied "factory".toText none fun _ => none⟩
    let secure : Reference := .url { scheme := some "wss".toText, host := some "h".toText }
    let plain : Reference := .url { scheme := some "ws".toText, host := some "h".toText }
    let calls : List Call :=
      [.assign 0 (.context (some context)), .resolve 0 secure, .resolve 1 plain]
    let calls' : List Call :=
      [.assign 1 (.context (some context)), .assign 0 (.tlsFactory (some factory)),
        .assign 0 (.context none), .assign 0 (.context (some context)), .resolve 0 secure,
        .assign 0 (.plainFactory (some factory)), .resolve 1 plain]
    let start : Program := ⟨.asciiOnly, fun _ => {}, sessionEnvironment (Network.ofTable []) {}⟩
    requests start.encode start.resolvers [] calls =
      requests start.encode start.resolvers [] calls' ∧
      (start.observed calls).length = 2 ∧ start.observed calls = start.observed calls' := by
  intro context factory secure plain calls calls' start
  have agree : requests start.encode start.resolvers [] calls =
      requests start.encode start.resolvers [] calls' := rfl
  exact ⟨agree, rfl, (noninterference start.encode start.environment agree).1.1⟩

end Dialer
