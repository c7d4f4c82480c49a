import Dialer.Uri.Authority

/-!
# Generic parts of a reference

Every text falls into a scheme, an authority, a path, a query and a fragment, each empty when it
is missing.

* `Parts.split` takes a text apart. It drops leading blanks and control characters and all line
  breaks and tabs, and refuses a malformed authority.
* `Parts.toText` puts parts together.
* `ParamParts` sets the parameters of the last path segment apart, for schemes that have them.
-/

namespace Dialer.Uri

open Text

/-- The generic parts of a reference. -/
structure Parts where
  scheme : Text
  authority : Text
  path : Text
  query : Text
  fragment : Text

/-! ## Splitting -/

/-- The text without leading blanks and control characters, tabs and line breaks. -/
def cleaned (s : Text) : Text :=
  (s.dropWhile fun c => c.toNat ≤ 0x20).filter fun c => c != '\t' && c != '\n' && c != '\r'

/-- Whether the character may follow the first letter of a scheme. -/
def isSchemeChar (c : CodePoint) : Bool := c.isAlphanum || c = '+' || c = '-' || c = '.'

/-- Whether the text is a scheme. -/
def isScheme : Text → Bool
  | [] => false
  | c :: s => c.isAlpha && s.all isSchemeChar

/-- The scheme, in lower case and empty if there is none, and what follows it. -/
def cutScheme (s : Text) : Text × Text :=
  match cutFirst ':' s with
  | (scheme, some rest) => if isScheme scheme then (scheme.map CodePoint.toLower, rest) else ([], s)
  | (_, none) => ([], s)

/-- Whether the character ends an authority. -/
def endsAuthority (c : CodePoint) : Bool := c = '/' || c = '?' || c = '#'

/-- The authority, empty if there is none, and what follows it. -/
def cutAuthority : Text → Text × Text
  | char '/' :: char '/' :: s => (s.takeWhile (!endsAuthority ·), s.dropWhile (!endsAuthority ·))
  | s => ([], s)

/-- The parts of a text. -/
def Parts.split (s : Text) : Except AuthorityError Parts := do
  let (scheme, afterScheme) := cutScheme (cleaned s)
  let (authority, rest) := cutAuthority afterScheme
  Authority.checkBrackets authority
  Authority.checkDisguise authority
  let (beforeFragment, fragment) := cutFirst '#' rest
  let (path, query) := cutFirst '?' beforeFragment
  return { scheme, authority, path, query := query.getD [], fragment := fragment.getD [] }

/-! ## Joining -/

/-- The schemes whose references have an authority. -/
def hierarchicalSchemes : List Text :=
  ["ftp", "http", "gopher", "nntp", "telnet", "imap", "wais", "file", "mms", "https", "shttp",
    "snews", "prospero", "rtsp", "rtspu", "rsync", "svn", "svn+ssh", "sftp", "nfs", "git",
    "git+ssh", "ws", "wss"]

/-- Whether references with the scheme have an authority. -/
def isHierarchical (scheme : Text) : Bool :=
  hierarchicalSchemes.contains scheme

/-- Whether a text begins with two slashes. -/
def beginsAuthority : Text → Bool
  | char '/' :: char '/' :: _ => true
  | _ => false

/-- The authority and the path, with slashes before them where the parts call for an authority. -/
def Parts.hierarchy (p : Parts) : Text :=
  if !p.authority.isEmpty || (isHierarchical p.scheme && !beginsAuthority p.path) then
    let path :=
      if p.path.isEmpty || p.path.head? = some (char '/') then p.path else char '/' :: p.path
    char '/' :: char '/' :: p.authority ++ path
  else p.path

/-- A text after its mark, and nothing for an empty text. -/
def marked (mark : CodePoint) (s : Text) : Text := if s.isEmpty then [] else mark :: s

/-- The text of the parts. -/
def Parts.toText (p : Parts) : Text :=
  (if p.scheme.isEmpty then [] else p.scheme ++ [char ':'])
    ++ p.hierarchy ++ marked '?' p.query ++ marked '#' p.fragment

/-! ## Parameters -/

/-- Parts with the parameters of the last path segment set apart. -/
structure ParamParts extends Parts where
  params : Text

/-- The schemes whose last path segment may have parameters. -/
def schemesWithParams : List Text :=
  ["", "ftp", "hdl", "prospero", "http", "imap", "https", "shttp", "rtsp", "rtspu", "sip", "sips",
    "mms", "sftp", "tel"]

/-- Whether the last path segment of references with the scheme may have parameters. -/
def hasParams (scheme : Text) : Bool := schemesWithParams.contains scheme

/-- The path up to the first `;` of its last segment, and what follows that. -/
def cutParams (path : Text) : Text × Text :=
  match cutLast '/' path with
  | (none, segment) =>
    let (path, params) := cutFirst ';' segment
    (path, params.getD [])
  | (some before, segment) =>
    let (segment, params) := cutFirst ';' segment
    (before ++ char '/' :: segment, params.getD [])

/-- The parts of a text, with parameters. -/
def ParamParts.split (s : Text) : Except AuthorityError ParamParts := do
  let parts ← Parts.split s
  if hasParams parts.scheme then
    let (path, params) := cutParams parts.path
    return { parts with path, params }
  else return { parts with params := [] }

/-- The text of the parts, with parameters after the path. -/
def ParamParts.toText (p : ParamParts) : Text :=
  { p.toParts with path := p.path ++ marked ';' p.params }.toText

end Dialer.Uri
