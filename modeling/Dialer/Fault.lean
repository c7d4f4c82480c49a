import Dialer.Atom

/-!
# Faults

* `Kind` is a kind of failure. `Kind.isA` tells which kinds it belongs to.
* `SystemReport` is what a fault of the operating system reports, with up to two files.
* `Fault` is an error from outside, raised by the platform or by an object of the caller.
  `Fault.message` is what it says.
-/

namespace Dialer

/-! ## Kinds -/

/-- The kinds of failure that callers tell apart. -/
inductive Kind
  /-- Any failure of this library's own. -/
  | dial
  /-- Something is wrong with a reference. -/
  | location
  /-- A reference breaks the URI syntax. -/
  | unparsable
  | unknownScheme
  | emptyHost
  /-- The platform cannot supply a default TLS context. -/
  | noDefault
  | value
  | unicode
  | decoding
  | encoding
  | domainName
  | attribute
  | overflow
  | runtime
  | notImplemented
  | type
  | interrupt
  | exit
  | os
  | connectionRefused
  | connectionReset
  | timeout
  | fileNotFound
  | permission
  | isADirectory
  | notADirectory
  | fileExists
  | brokenPipe
  | connectionAborted
  | wouldBlock
  | interruptedCall
  | childProcess
  | processLookup
  | nameLookup
  | tls
  | certificate
  | other (name : Text)
  deriving DecidableEq

namespace Kind

/-- The more general kinds that a kind belongs to. -/
def generalisations : Kind → List Kind
  | location => [dial, value]
  | unparsable | unknownScheme | emptyHost => [location, dial, value]
  | noDefault => [dial, os]
  | unicode => [value]
  | decoding | encoding | domainName => [unicode, value]
  | notImplemented => [runtime]
  | connectionRefused | connectionReset | timeout | fileNotFound | permission | isADirectory
  | notADirectory | fileExists | brokenPipe | connectionAborted | wouldBlock | interruptedCall
  | childProcess | processLookup | nameLookup | tls => [os]
  | certificate => [tls, os, value]
  | _ => []

/-- Whether a kind is `general` or belongs to it. -/
def isA (kind general : Kind) : Bool := kind = general || kind.generalisations.contains general

end Kind

/-! ## Reports of the operating system -/

/-- What the operating system reports: a code, a text, and the files that the fault is about. -/
structure SystemReport where
  code : Atom
  text : Atom
  file : Option Atom := none
  /-- The other file, where there is a first. -/
  otherFile : Option Atom := none

namespace SystemReport

/-- The report in the arguments of a fault: a code, a text, and then a file, a value that does not
count and another file, from some point on left out. Other arguments hold no report. -/
def ofArguments? : List Atom → Option SystemReport
  | [code, text] => some { code, text }
  | [code, text, file] | [code, text, file, _] => some { code, text, file := file.present? }
  | [code, text, file, _, otherFile] =>
    let other := if file.present?.isSome then otherFile.present? else none
    some { code, text, file := file.present?, otherFile := other }
  | _ => none

/-- What a report says of its files. -/
def filesText (r : SystemReport) : Text :=
  match r.file, r.otherFile with
  | none, _ => []
  | some file, none => ": ".toText ++ file.quoted
  | some file, some other => ": ".toText ++ file.quoted ++ " -> ".toText ++ other.quoted

/-- What a report says. -/
def message (r : SystemReport) : Text :=
  "[Errno ".toText ++ r.code.shown ++ "] ".toText ++ r.text.shown ++ r.filesText

/-- The codes that stand for a special kind of fault. -/
def codes : List (Int × Kind) :=
  [(1, .permission), (2, .fileNotFound), (3, .processLookup), (4, .interruptedCall),
    (10, .childProcess), (11, .wouldBlock), (13, .permission), (17, .fileExists),
    (20, .notADirectory), (21, .isADirectory), (32, .brokenPipe), (103, .connectionAborted),
    (104, .connectionReset), (108, .brokenPipe), (110, .timeout), (111, .connectionRefused),
    (114, .wouldBlock), (115, .wouldBlock)]

/-- The kind that the code of a report stands for. -/
def kind (r : SystemReport) : Kind :=
  match r.code with
  | .number n => (codes.lookup n).getD .os
  | _ => .os

end SystemReport

/-! ## Faults -/

/-- An error from outside. -/
structure Fault where
  kind : Kind
  arguments : List Atom
  deriving DecidableEq

/-- What is said of a reference that breaks the URI syntax. -/
def unparsableMessage (location reason : Atom) : Text :=
  "Failed to parse: ".toText ++ location.shown
    ++ (if reason.isBlank then [] else " (".toText ++ reason.shown ++ ")".toText)

/-- What is said of an unknown scheme. -/
def unknownSchemeMessage (scheme : Atom) : Text := "Bad scheme: " ++ scheme.shown

/-- What is said of a reference without a host. -/
def emptyHostMessage : Text := "The host part is empty."

namespace Fault

/-- The fault of a kind with arguments. A fault of the operating system at large is of the kind
that its code stands for. -/
def ofKind (kind : Kind) (arguments : List Atom) : Fault where
  kind :=
    if kind = .os then ((SystemReport.ofArguments? arguments).map SystemReport.kind).getD .os
    else kind
  arguments

/-- What arguments that hold no report say. -/
def argumentsText : List Atom → Text
  | [] => []
  | [a] => a.shown
  | as => Atom.tuple as

/-- What a fault of the TLS implementation says: the text of its report alone. -/
def tlsMessage (arguments : List Atom) : Text :=
  match SystemReport.ofArguments? arguments with
  | some { text := .text s, .. } => s
  | some { code, text, file := some _, .. } => Atom.tuple [code, text]
  | _ => Atom.tuple arguments

/-- What a fault without a wording of its own says. -/
def plainMessage (f : Fault) : Text :=
  if f.kind.isA .tls then tlsMessage f.arguments
  else if f.kind.isA .os then
    match SystemReport.ofArguments? f.arguments with
    | some report => report.message
    | none => argumentsText f.arguments
  else argumentsText f.arguments

/-- What the fault says. -/
def message (f : Fault) : Text :=
  match f.kind with
  | .unparsable =>
    unparsableMessage (f.arguments.head?.getD .none) (f.arguments[1]?.getD .none)
  | .unknownScheme => unknownSchemeMessage (f.arguments.head?.getD .none)
  | .emptyHost => emptyHostMessage
  | _ => f.plainMessage

end Fault

end Dialer
