import Dialer.Command
import Dialer.Idna.Domain

/-!
# The command line

Rehearses the command: every name has one address, every connection succeeds, and what the
command would report goes to the error stream.
-/

namespace Dialer

/-- The network of a rehearsal. -/
def rehearsalNetwork : Network :=
  .ofTable [([char '*'], .found [⟨2, none, fun _ => none⟩])]

/-- The string of a text, in which the replacement character stands for surrogates. -/
def Text.toString (s : Text) : String :=
  String.ofList (s.map fun
    | char c => c
    | .surrogate _ => '\uFFFD')

/-- The lines that events put on the error stream. -/
def stderrLines (events : List Event) : List Text :=
  events.filterMap fun
    | .stderr line => some line
    | _ => none

end Dialer

/-- Rehearses the command and exits with its code. -/
def main (arguments : List String) : IO UInt32 := do
  let environment := Dialer.Command.environment (Dialer.rehearsalNetwork) {}
  let run := Dialer.Command.run Dialer.Idna.encode? (arguments.map String.toText) environment
  for line in Dialer.stderrLines run.events do
    IO.eprintln line.toString
  match run.outcome with
  | .ok code => return code.toNat.toUInt32
  | .error e =>
    IO.eprintln e.message.toString
    return 1
