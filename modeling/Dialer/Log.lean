import Dialer.Text.Quoted

/-!
# Log records

* `Record` is one thing to report. `Logging.admits` tells whether its level suffices.
* `Sink` is where admitted records go; every sink gets every one.
* `LevelSpec.resolve` reads a level given by number or by name.
-/

namespace Dialer

/-- The level of a record. -/
inductive Level
  | debug
  | info
  | error
  deriving DecidableEq

/-- The number of a level. -/
def Level.number : Level → Int
  | debug => 10
  | info => 20
  | error => 40

/-- The name of a level. -/
def Level.name : Level → Text
  | debug => "DEBUG"
  | info => "INFO"
  | error => "ERROR"

/-- Who reports. -/
inductive Logger
  | package
  | resolver
  | factory
  | command
  deriving DecidableEq

/-- The name of a logger. -/
def Logger.name : Logger → Text
  | package => "wsdial"
  | resolver => "wsdial.resolver"
  | factory => "wsdial.factory"
  | command => "resolve_endpoint"

/-- One thing to report. -/
structure Record where
  level : Level
  logger : Logger
  message : Text
  deriving DecidableEq

/-- Where records go. -/
inductive Sink
  /-- A listener inside the program. -/
  | listener
  /-- The error stream, with time and level. -/
  | stamped
  /-- The error stream, with level and logger. -/
  | labelled
  deriving DecidableEq

/-- The line that a record becomes with time and level. -/
def Record.stamped (r : Record) : Text := "<time> " ++ r.level.name ++ " " ++ r.message

/-- The line that a record becomes with level and logger. -/
def Record.labelled (r : Record) : Text :=
  r.level.name ++ ":" ++ r.logger.name ++ ":" ++ r.message

/-- How records are reported. -/
structure Logging where
  /-- The level that records need; zero leaves it to the root. -/
  level : Int
  rootLevel : Int
  sinks : List Sink
  deriving DecidableEq

/-- Whether a record is reported. -/
def Logging.admits (l : Logging) (r : Record) : Bool :=
  (if l.level = 0 then l.rootLevel else l.level) ≤ r.level.number

/-- The number of sinks that write stamped lines. -/
def Logging.handlers (l : Logging) : Nat := l.sinks.count .stamped

/-- A level as callers give it. -/
inductive LevelSpec
  | number (n : Int)
  | named (name : Text)

/-- The levels that have names. -/
def namedLevels : List (Text × Int) :=
  [("CRITICAL".toText, 50), ("FATAL".toText, 50), ("ERROR".toText, 40), ("WARNING".toText, 30),
    ("WARN".toText, 30), ("INFO".toText, 20), ("DEBUG".toText, 10), ("NOTSET".toText, 0)]

/-- The number of a level, or else the name that is unknown. -/
def LevelSpec.resolve : LevelSpec → Except Text Int
  | number n => .ok n
  | named name =>
    match namedLevels.lookup name with
    | some n => .ok n
    | none => .error name

end Dialer
