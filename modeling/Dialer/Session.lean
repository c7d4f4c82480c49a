import Dialer.Resolver

/-!
# Sessions

A session is a program's use of a resolver, whose overrides may be reassigned, with
factories and contexts that have names, and the targets handed out so far.

* `Step` is what may be asked of a session; `Step.run` does it.
* `Session.run` does steps in turn. A step that fails changes no names, overrides or targets, and
  does not end the session.
-/

namespace Dialer

open Dialer.Action

/-! ## Specifications -/

/-- A factory to be made when a session starts. -/
inductive FactorySpec
  | plain (settings : ConnectSettings)
  /-- A factory for TLS, with the context of a name if one is given. -/
  | tls (settings : ConnectSettings) (context : Option Text)
  | supplied (fault : Option Fault) (faults : SocketFaults)

/-- Overrides by name. -/
structure Choice where
  plainFactory : Option Text := none
  tlsFactory : Option Text := none
  context : Option Text := none

/-- An override that may be reassigned. -/
inductive Field
  | plainFactory
  | tlsFactory
  | context

/-- What may be asked of a session. -/
inductive Step
  | resolve (reference : Reference)
  /-- Resolves with overrides for this time only. -/
  | resolveWith (reference : Reference) (choice : Choice)
  | assign (field : Field) (name : Option Text)
  | configure (choice : Choice)
  | select (secure : Bool)
  /-- Asks for the process-wide factory for TLS or plain connections. -/
  | askDefault (secure : Bool)
  /-- Makes the TLS factory of a context and names it. -/
  | derive (context name : Text)
  | createSocket (factory host : Text) (port : Int)
  | contextOf (factory : Text)
  | describe (factory : Text)
  | makeTarget (hostHeader requestTarget : Text)
  | close (target : Int)
  /-- Uses a target, with a fault in the midst of it if one is given, and closes it. -/
  | within (target : Int) (fault : Option Fault)
  | replacePlatform (platform : TlsPlatform)
  | replaceNetwork (network : Network)
  | logToStderr (level : LevelSpec)

/-- How a factory is shown. -/
inductive FactoryView
  /-- By the name that it has now. -/
  | named (name : Text)
  | processWide (className : Text)
  /-- By its class and the context that it has so far, for want of a name. -/
  | unnamed (className : Text) (context : Option ContextName)

/-- How overrides are shown. -/
structure OverridesView where
  plainFactory : Option FactoryView
  tlsFactory : Option FactoryView
  context : Option ContextName

/-- What a step answers. -/
inductive Answer
  | done
  | target (t : Target)
  | factory (f : FactoryView)
  | socket (s : Socket)
  | context (c : Context)
  | text (s : Text)

/-! ## State -/

/-- What a session knows by name and number. -/
structure Session where
  /-- How host names are encoded. -/
  encode : HostEncoding
  factories : List (Text × Factory) := []
  /-- The number of factories made. -/
  made : Nat := 0
  contexts : List (Text × Context) := []
  overrides : Overrides := {}
  targets : List Target := []

namespace Session

/-- The factory of a name. -/
def factory? (s : Session) (name : Text) : Option Factory := s.factories.lookup name

/-- The context of a name. -/
def context? (s : Session) (name : Text) : Option Context := s.contexts.lookup name

/-- The target of a number. -/
def target? (s : Session) (number : Int) : Option Target :=
  match number with
  | .ofNat n => s.targets[n]?
  | .negSucc _ => none

/-- The overrides that names choose. -/
def overridesOf (s : Session) (choice : Choice) : Overrides where
  plainFactory := choice.plainFactory.bind s.factory?
  tlsFactory := choice.tlsFactory.bind s.factory?
  context := choice.context.bind s.context?

/-- Reassigns one override. -/
def assign (s : Session) (field : Field) (name : Option Text) : Session :=
  match field with
  | .plainFactory =>
    { s with overrides := { s.overrides with plainFactory := name.bind s.factory? } }
  | .tlsFactory =>
    { s with overrides := { s.overrides with tlsFactory := name.bind s.factory? } }
  | .context => { s with overrides := { s.overrides with context := name.bind s.context? } }

/-- Makes the TLS factory of a context and gives it a name, which no other factory keeps. -/
def derive (s : Session) (name : Text) (context : Context) : Session :=
  let others := s.factories.filter fun entry => entry.1 ≠ name
  { s with
    factories := (name, Factory.ofContext context (.made s.made)) :: others
    made := s.made + 1 }

/-- The name that a factory has now. -/
def nameOf? (s : Session) (f : Factory) : Option Text :=
  (s.factories.find? fun entry => entry.2.origin = f.origin).map Prod.fst

/-- How a factory is shown in an environment. -/
def view (s : Session) (p : Environment) (f : Factory) : FactoryView :=
  match f.origin, s.nameOf? f with
  | .processWide _, _ => .processWide f.opener.className
  | _, some name => .named name
  | _, none => .unnamed f.opener.className ((f.context? p).map Context.name)

/-- How the overrides are shown in an environment. -/
def overridesView (s : Session) (p : Environment) : OverridesView where
  plainFactory := s.overrides.plainFactory.map (s.view p)
  tlsFactory := s.overrides.tlsFactory.map (s.view p)
  context := s.overrides.context.map Context.name

/-- The answer that shows a factory. -/
def showFactory (s : Session) (f : Factory) : Action (Session × Answer) :=
  return (s, .factory (s.view (← environment) f))

/-- Hands out a target. -/
def handOut (s : Session) (t : Target) : Session × Answer :=
  ({ s with targets := s.targets ++ [t] }, .target t)

/-- The opener that a specification describes, with a number for what it may keep. -/
def openerOf (s : Session) (number : Nat) (name : Text) : FactorySpec → Opener
  | .plain settings => .plain settings
  | .tls settings context =>
    match context.bind s.context? with
    | some c => .tls settings (.given c)
    | none => .tls settings (.onDemand (.own number))
  | .supplied fault faults => .supplied name fault faults

/-- The session with the given contexts, factories and overrides. -/
def start (encode : HostEncoding) (contexts : List (Text × Option Fault))
    (factories : List (Text × FactorySpec)) (choice : Choice) : Session :=
  let known : Session :=
    { encode, contexts := contexts.map fun (name, fault) => (name, .given name fault) }
  let made := factories.zipIdx.map fun ((name, spec), number) =>
    (name, (⟨.made number, known.openerOf number name spec⟩ : Factory))
  let equipped := { known with factories := made, made := made.length }
  { equipped with overrides := equipped.overridesOf choice }

end Session

/-- The environment in which a session starts: it hears every record from the lowest level on. -/
def sessionEnvironment (network : Network) (platform : TlsPlatform) : Environment :=
  { network, platform, logging := ⟨Level.debug.number, 30, [.listener]⟩ }

/-! ## Steps -/

/-- Attaches a sink for stamped lines, sets the level and reports that. The sink stays if the level
is unknown. -/
def logToStderr (level : LevelSpec) : Action Unit := do
  update fun p => { p with logging := { p.logging with sinks := p.logging.sinks ++ [.stamped] } }
  let number ← ofExcept (level.resolve.mapError .unknownLevel)
  update fun p => { p with logging := { p.logging with level := number } }
  report .debug .package ("Added a stderr logging handler to logger: " ++ Logger.package.name)

/-- Does a step. -/
def Step.run (s : Session) : Step → Action (Session × Answer)
  | resolve reference => s.handOut <$> Dialer.resolve s.encode s.overrides reference
  | resolveWith reference choice =>
    s.handOut <$> Dialer.resolve s.encode (s.overridesOf choice) reference
  | assign field name => return (s.assign field name, .done)
  | configure choice => return ({ s with overrides := s.overridesOf choice }, .done)
  | select secure => s.overrides.select secure >>= s.showFactory
  | askDefault secure => defaultFactory secure >>= s.showFactory
  | derive context name =>
    match s.context? context with
    | some c => return (s.derive name c, .text tlsClass)
    | none => return (s, .text "no context")
  | createSocket factory host port =>
    match s.factory? factory with
    | some f => return (s, .socket (← f.createSocket host port))
    | none => return (s, .text "no factory")
  | contextOf factory =>
    match s.factory? factory with
    | some f => return (s, .context (← f.context))
    | none => return (s, .text "no factory")
  | describe factory =>
    match s.factory? factory with
    | some f => return (s, .text (← ofExcept f.opener.describe))
    | none => return (s, .text "no factory")
  | makeTarget hostHeader requestTarget => do
    let raw ← adoptSocket (fun _ => none) []
    return s.handOut { socket := .plain raw, hostHeader, requestTarget }
  | close target =>
    match s.target? target with
    | some t => do
      t.close
      return (s, .done)
    | none => return (s, .text "no target")
  | within target fault =>
    match s.target? target with
    | some t => do
      t.within (fault.forM fun f => fail (.fault f))
      return s.handOut t
    | none => return (s, .text "no target")
  | replacePlatform platform => do
    update fun p => { p with platform }
    return (s, .done)
  | replaceNetwork network => do
    update fun p => { p with network }
    return (s, .done)
  | logToStderr level => do
    Dialer.logToStderr level
    return (s, .text "StreamHandler")

/-! ## Runs -/

/-- What is seen of a step: how it ended, what it did, and the overrides and logging after it. -/
structure Report where
  outcome : Except Failure Answer
  events : List Event
  overrides : OverridesView
  logging : Logging

/-- Does a step in an environment. -/
def Session.advance (s : Session) (p : Environment) (step : Step) :
    Report × Session × Environment :=
  let run := step.run s p
  let report (outcome : Except Failure Answer) (next : Session) : Report :=
    { outcome
      events := run.events
      overrides := next.overridesView run.environment
      logging := run.environment.logging }
  match run.outcome with
  | .ok (next, answer) => (report (.ok answer) next, next, run.environment)
  | .error e => (report (.error e) s, s, run.environment)

/-- Does steps in turn. -/
def Session.run (s : Session) (p : Environment) : List Step → List Report
  | [] => []
  | step :: steps =>
    let (report, next, environment) := s.advance p step
    report :: next.run environment steps

end Dialer
