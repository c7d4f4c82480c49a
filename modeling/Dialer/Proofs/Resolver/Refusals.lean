import Dialer.Proofs.Resolver.Shapes
import Dialer.Proofs.Uri.Surrogates

/-!
# How references are refused

Several hands take part in reading a reference: the checks of a text, the splitting of an authority
with its port, the encoding of a host name and of the other components, and the object that a text
comes from. Each raises errors of its own kind, and two layers turn them into errors of this
library.

* `handling` raises errors of some kinds as others and lets the rest through.
* `Url.parseRaising` and `Reference.convertRaising` parse and convert with every error raised where
  it arises and handled where the program does so.
* `refusals_reported_iff` says that they are `Reference.parse` and `Reference.convert`, which report
  failures as `Refuses` and `Conversion` say. One error gets through both layers, that of a
  component with surrogates.
-/

namespace Dialer

open Uri Text

/-! ## Errors and handlers -/

/-- An error as its handlers see it. -/
structure Raised where
  kind : Kind
  message : Text
  location : Option Atom
  cause : Option (Kind × Option Text)

/-- The failure, raised. -/
def Failure.raised (f : Failure) : Raised := ⟨f.kind, f.message, f.location, f.cause⟩

/-- The error as the cause of another one. What is said of a domain name is not settled. -/
def Raised.asCause (e : Raised) : Kind × Option Text :=
  if e.kind.isA .domainName then (.domainName, none) else (e.kind, some e.message)

/-- Errors of the kinds are raised as others. -/
def handling {α : Type} (kinds : List Kind) (instead : Raised → Raised) (x : Except Raised α) :
    Except Raised α :=
  x.mapError fun e => if kinds.any e.kind.isA then instead e else e

variable {α : Type} {kinds : List Kind} {instead : Raised → Raised} {x : Except Raised α}

theorem handling_of_handled (h : ∀ e, x = .error e → kinds.any e.kind.isA = true) :
    handling kinds instead x = x.mapError instead := by
  cases x with
  | ok a => rfl
  | error e => exact congrArg Except.error (if_pos (h e rfl))

theorem handling_mapError {ε : Type} {x : Except ε α} {g : ε → Raised}
    (h : ∀ e, kinds.any (g e).kind.isA = true) :
    handling kinds instead (x.mapError g) = x.mapError fun e => instead (g e) := by
  rw [handling_of_handled, mapError_mapError]
  intro e raised
  cases x with
  | ok a => cases raised
  | error e' => exact Except.error.inj raised ▸ h e'

/-! ## Parsing -/

/-- The refusal of a text for a reason. -/
def Raised.unparsable (s : Text) (reason : Text) (cause : Option Raised) : Raised where
  kind := .unparsable
  message := unparsableMessage (.text s) (.text reason)
  location := some (.text s)
  cause := cause.map Raised.asCause

namespace Url

/-- Takes a text apart and reads its port. -/
def splitRaising (s : Text) : Except Raised (Parts × Option Nat) := do
  let parts ← (Parts.split s).mapError fun e => (Failure.unsplittable e).raised
  let port ← (Authority.port parts.authority).mapError fun e => (Failure.unsplittable e).raised
  return (parts, port)

/-- Encodes the host of the text `s`. -/
def asciiHostRaising (encode : Text → Except Fault Text) (s host : Text) : Except Raised Text :=
  if host.isAscii then .ok host
  else
    handling [.domainName]
      (fun e => .unparsable s ("invalid host " ++ (quoted host)) (some e))
      ((encode host).mapError fun f => (Failure.fault f).raised)

/-- Checks the characters of a component of the text `s`. -/
def checkComponentRaising (s : Text) (component : Component) (t : Text) : Except Raised Unit :=
  if t.all component.allows then .ok ()
  else .error (.unparsable s ("illegal character in " ++ component.name) none)

/-- Encodes a component. No handler is there. -/
def asciiComponentRaising (t : Text) : Except Raised Text :=
  (encodeComponent t).mapError fun e => (Failure.unencodable e).raised

/-- Parses a text. Only the splitting and the encoding of the host stand inside handlers. -/
def parseRaising (encode : Text → Except Fault Text) (s : Text) : Except Raised Url := do
  if s.any isIllegal then throw (.unparsable s "illegal character" none)
  if !escapesFit s then throw (.unparsable s "malformed percent-encoding" none)
  let (parts, port) ←
    handling [.value] (fun e => .unparsable s e.message (some e)) (splitRaising s)
  let host ← (Authority.host parts.authority).mapM (asciiHostRaising encode s)
  let userInfo ← (Authority.userInfo parts.authority).mapM asciiComponentRaising
  let path ← asciiComponentRaising parts.path
  let query ← (if hasQuery s then some parts.query else none).mapM asciiComponentRaising
  let fragment ← asciiComponentRaising parts.fragment
  userInfo.forM (checkComponentRaising s .userInfo)
  checkComponentRaising s .path path
  query.forM (checkComponentRaising s .query)
  checkComponentRaising s .fragment fragment
  return {
    scheme := if parts.scheme.isEmpty then none else some parts.scheme
    userInfo
    host
    port := port.map Int.ofNat
    path := some path
    query }

/-- Why the text does not parse, raised. -/
def refusal (s : Text) (reason : ParseError) : Raised :=
  (Failure.ofParse (.unparsable s) reason).raised

variable {encode : Text → Except Fault Text} {s : Text}

theorem handling_splitRaising :
    handling [.value] (fun e => .unparsable s e.message (some e)) (splitRaising s) =
      (Parts.split s).mapError (fun e => refusal s (.authority e)) >>= fun parts =>
        (Authority.port parts.authority).mapError (fun e => refusal s (.authority e)) >>=
          fun port => .ok (parts, port) := by
  have split : splitRaising s =
      (Parts.split s >>= fun parts => Authority.port parts.authority >>= fun port =>
        .ok (parts, port)).mapError fun e => (Failure.unsplittable e).raised := by
    simp only [mapError_bind]
    rfl
  rw [split, handling_mapError fun _ => rfl]
  simp only [mapError_bind]
  rfl

/-- The refusal of a host says that its encoding failed. -/
theorem unparsable_eq_refusal {f : Fault} (own : f.kind.isA .domainName = true) (host : Text) :
    Raised.unparsable s ("invalid host " ++ (quoted host))
      (some (Failure.fault f).raised) = refusal s (.invalidHost host) := by
  have cause : (Failure.fault f).raised.asCause = (.domainName, none) := if_pos own
  show Raised.mk _ _ _ (some (Failure.fault f).raised.asCause) = _
  rw [cause]
  rfl

theorem asciiHostRaising_eq
    (own : ∀ host f, encode host = .error f → f.kind.isA .domainName = true) :
    asciiHostRaising encode s = fun host =>
      (asciiHost (fun host => (encode host).toOption) host).mapError (refusal s) := by
  funext host
  unfold asciiHostRaising asciiHost
  split
  next => rfl
  next =>
    beta_reduce
    cases encoded : encode host with
    | ok name => rfl
    | error f =>
      have kind : f.kind.isA .domainName = true := own host f encoded
      have handled : [Kind.domainName].any (Failure.fault f).raised.kind.isA = true :=
        Bool.or_eq_true_iff.mpr (Or.inl kind)
      exact congrArg Except.error ((if_pos handled).trans (unparsable_eq_refusal kind host))

theorem checkComponentRaising_eq (component : Component) :
    checkComponentRaising s component = fun t =>
      (checkComponent component t).mapError (refusal s) := by
  funext t
  unfold checkComponentRaising checkComponent
  split <;> rfl

theorem asciiComponentRaising_eq :
    asciiComponentRaising = fun t => (asciiComponent t).mapError (refusal s) := by
  funext t
  rw [asciiComponent, mapError_mapError]
  rfl

/-- Parsing with errors raised and handled is parsing, if encoding a host name fails in its own way
only. -/
theorem parseRaising_eq
    (own : ∀ host f, encode host = .error f → f.kind.isA .domainName = true) :
    parseRaising encode s =
      (parseWith (fun host => (encode host).toOption) s).mapError (refusal s) := by
  unfold parseRaising parseWith
  cases illegal : s.any isIllegal with
  | true => rfl
  | false =>
    cases fits : escapesFit s with
    | false => rfl
    | true =>
      simp only [Bool.false_eq_true, if_false, Bool.not_true, mapError_bind,
        handling_splitRaising, mapError_mapError, bind_assoc]
      refine congrArg _ (funext fun parts => congrArg _ (funext fun port => ?_))
      simp only [mapError_mapM, mapError_forM, asciiHostRaising_eq own,
        asciiComponentRaising_eq (s := s), checkComponentRaising_eq]
      rfl

end Url

/-! ## Conversion -/

/-- The text that an object gave, if it gave a text or ASCII bytes. -/
def Rendering.text? : Rendering → Option Text
  | .missing => none
  | .text s => some s
  | .bytes b => if b.all fun byte => byte.toNat < 128 then some (asciiText b) else none

/-- The refusal of what an object gave, shown as `shown`. -/
def Raised.unconvertible (shown : Text) (cause : Raised) : Raised where
  kind := .location
  message := "Failed to convert the given URL into a URI: " ++ shown
  location := none
  cause := some cause.asCause

namespace Reference

/-- Decodes bytes as ASCII. -/
def decodeRaising (b : List UInt8) : Except Raised Text :=
  if b.all fun byte => byte.toNat < 128 then .ok (asciiText b)
  else .error ⟨.decoding, undecodableMessage b, none, none⟩

/-- Refuses what an object gave when it does not parse or cannot be decoded. -/
def converting {α : Type} (shown : Text) : Except Raised α → Except Raised α :=
  handling [.unparsable, .decoding] (.unconvertible shown)

/-- Converts the answer of an object. It has answered before any handler is there. -/
def convertRaising (encode : Text → Except Fault Text) (answer : Except Raised Rendering) :
    Except Raised Url := do
  match ← answer with
  | .missing => converting "None".toText (throw (Failure.reference .missing).raised)
  | .text s => converting (quoted s) (Url.parseRaising encode s)
  | .bytes b =>
    let s ← converting (quotedBytes b) (decodeRaising b)
    converting (quoted s) (Url.parseRaising encode s)

/-- The names that the encoding gives. -/
def names (encode : Text → Except Fault Text) : HostEncoding := fun host => (encode host).toOption

variable {encode : Text → Except Fault Text} {s : Text} {b : List UInt8} {r : Reference}
  {answer : Except Failure Rendering}

/-- What does not parse is refused as what an object gave, unless it cannot be encoded. -/
theorem converting_parse
    (parses : Url.parseRaising encode s = (parse (names encode) s).mapError Failure.raised) :
    converting (quoted s) (Url.parseRaising encode s) =
      (convertText (names encode) s).mapError Failure.raised := by
  rw [parses, parse, convertText, mapError_mapError, mapError_mapError]
  cases Url.parseWith (names encode) s with
  | ok u => rfl
  | error reason => cases reason <;> rfl

theorem converting_decode : converting (quotedBytes b) (decodeRaising b) =
    if b.all fun byte => byte.toNat < 128 then .ok (asciiText b)
    else .error (Failure.reference (.undecodable b)).raised := by
  unfold decodeRaising
  split <;> rfl

/-- Converting with errors raised and handled is converting. -/
theorem convertRaising_eq
    (parses : ∀ s, Url.parseRaising encode s = (parse (names encode) s).mapError Failure.raised)
    (given : r.rendering? = some answer) :
    convertRaising encode (answer.mapError Failure.raised) =
      (r.convert (names encode)).mapError Failure.raised := by
  rw [convert_of_rendering given, toUrl_of_rendering given]
  cases answer with
  | error f => rfl
  | ok rendering =>
    show convertRaising encode (.ok rendering) =
      (convertRendering (names encode) rendering).mapError _
    cases rendering with
    | missing => rfl
    | text s => exact converting_parse (parses s)
    | bytes b =>
      show (converting (quotedBytes b) (decodeRaising b) >>= fun s =>
        converting (quoted s) (Url.parseRaising encode s)) = _
      rw [converting_decode, convertRendering]
      split
      next => exact converting_parse (parses (asciiText b))
      next => rfl

/-! ## Reports -/

/-- The failure is the refusal of a text, which it names. -/
structure Refuses (f : Failure) (s : Text) : Prop where
  kind : f.kind = .unparsable
  location : f.location = some (.text s)

/-- The failure is the refusal of what an object gave, which it shows. It goes back to an error of
the kind `kind` that says `said`. -/
structure RefusesGiven (f : Failure) (shown : Text) (kind : Kind) (said : Text) : Prop where
  location : f.kind = .location
  message : f.message = "Failed to convert the given URL into a URI: " ++ shown
  cause : f.cause = some (kind, some said)

/-- What becomes of the answer of an object. -/
inductive Conversion (encode : HostEncoding) : Except Failure Rendering → Except Failure Url → Prop
  /-- A failure to answer is handed through. -/
  | unanswered {f : Failure} : Conversion encode (.error f) (.error f)
  | missing {f : Failure} (location : f.kind = .location) :
    Conversion encode (.ok .missing) (.error f)
  | parsed {rendering : Rendering} {s : Text} {u : Url} (text : rendering.text? = some s)
      (parsed : parse encode s = .ok u) : Conversion encode (.ok rendering) (.ok u)
  /-- A text that does not parse is shown, as text also where it was bytes. -/
  | refused {rendering : Rendering} {s : Text} {f cause : Failure}
      (text : rendering.text? = some s) (unparsable : parse encode s = .error cause)
      (refuses : RefusesGiven f (quoted s) cause.kind cause.message) :
      Conversion encode (.ok rendering) (.error f)
  /-- A component with surrogates is not reported as any of these. -/
  | unencodable {rendering : Rendering} {s : Text} {e : EncodingError}
      (text : rendering.text? = some s) (surrogates : Url.Unencodable encode s e) :
      Conversion encode (.ok rendering) (.error (.unencodable e))
  | undecodable {b : List UInt8} {f : Failure} (text : (Rendering.bytes b).text? = none)
      (refuses : RefusesGiven f (quotedBytes b) .decoding (undecodableMessage b)) :
      Conversion encode (.ok (.bytes b)) (.error f)

section

variable {encode : HostEncoding}

theorem parse_eq_unencodable_iff {e : EncodingError} :
    parse encode s = .error (.unencodable e) ↔ Url.Unencodable encode s e := by
  rw [← Url.parseWith_eq_unencodable_iff, parse]
  cases Url.parseWith encode s with
  | ok u => exact iff_of_false nofun nofun
  | error reason => cases reason <;> simp [Except.mapError, Failure.ofParse]

/-- **A text is parsed or refused** as the text it is, unless it cannot be encoded. -/
theorem parse_or_refuses_iff (encode : HostEncoding) (s : Text) :
    ((∃ u, parse encode s = .ok u) ∨ ∃ f, parse encode s = .error f ∧ Refuses f s) ↔
      ¬ ∃ e, Url.Unencodable encode s e := by
  simp only [← parse_eq_unencodable_iff]
  unfold parse
  cases Url.parseWith encode s with
  | ok u => exact iff_of_true (Or.inl ⟨u, rfl⟩) nofun
  | error reason =>
    cases reason with
    | unencodable e =>
      refine iff_of_false ?_ (not_not_intro ⟨e, rfl⟩)
      rintro (⟨u, parsed⟩ | ⟨f, failed, refuses⟩)
      · cases parsed
      · cases failed
        cases refuses.kind
    | _ => exact iff_of_true (Or.inr ⟨_, rfl, rfl, rfl⟩) nofun

theorem conversion_convertText {rendering : Rendering} (text : rendering.text? = some s) :
    Conversion encode (.ok rendering) (convertText encode s) := by
  unfold convertText
  cases parsed : Url.parseWith encode s with
  | ok u => exact .parsed text (mapError_eq_ok.mpr parsed)
  | error reason =>
    have failed : parse encode s = .error (.ofParse (.unparsable s) reason) := by
      rw [parse, parsed]
      rfl
    cases reason with
    | unencodable e => exact .unencodable text (parse_eq_unencodable_iff.mp failed)
    | _ => exact .refused text failed ⟨rfl, rfl, rfl⟩

/-- **An answer is converted** to the URL of its text, or the failure to do so shows the answer and
what was wrong with it. -/
theorem conversion_convert (given : r.rendering? = some answer) :
    Conversion encode answer (r.convert encode) := by
  rw [convert_of_rendering given, toUrl_of_rendering given]
  cases answer with
  | error f => exact .unanswered
  | ok rendering =>
    show Conversion encode (.ok rendering) (convertRendering encode rendering)
    cases rendering with
    | missing => exact .missing rfl
    | text s => exact conversion_convertText rfl
    | bytes b =>
      rw [convertRendering]
      split
      next ascii => exact conversion_convertText (if_pos ascii)
      next beyond => exact .undecodable (if_neg beyond) ⟨rfl, rfl, rfl⟩

end

/-- **Refusals are reported as promised, but for texts that cannot be encoded.** Whatever goes wrong
in parsing a text and in converting the answer of an object is handled, if encoding a host name
fails in its own way only, with one exception. A text with surrogates in a component fails with the
error of that component, if all is well up to its host. Any other text is parsed or refused, and an
answer is converted or the failure to do so is reported. -/
theorem refusals_reported_iff
    (own : ∀ host f, encode host = .error f → f.kind.isA .domainName = true) :
    (∀ s, Url.parseRaising encode s = (parse (names encode) s).mapError Failure.raised ∧
      (((∃ u, parse (names encode) s = .ok u) ∨
        ∃ f, parse (names encode) s = .error f ∧ Refuses f s) ↔
          ¬ ∃ e, Url.Unencodable (names encode) s e) ∧
      ∀ e, Url.Unencodable (names encode) s e →
        s.any CodePoint.isSurrogate = true ∧ parse (names encode) s = .error (.unencodable e)) ∧
    ∀ (r : Reference) answer, r.rendering? = some answer →
      convertRaising encode (answer.mapError Failure.raised) =
        (r.convert (names encode)).mapError Failure.raised ∧
      Conversion (names encode) answer (r.convert (names encode)) := by
  have parses (s : Text) :
      Url.parseRaising encode s = (parse (names encode) s).mapError Failure.raised := by
    rw [Url.parseRaising_eq own, parse, mapError_mapError]
    rfl
  refine ⟨fun s => ⟨parses s, parse_or_refuses_iff _ s, fun e unencodable => ?_⟩,
    fun r answer given => ?_⟩
  · exact ⟨unencodable.any_isSurrogate, parse_eq_unencodable_iff.mpr unencodable⟩
  · exact ⟨convertRaising_eq parses given, conversion_convert given⟩

/-- A host that may not be encoded, a text with a quotation mark and a tab, and bytes that are not
ASCII. -/
theorem refusals_reported_disallowed :
    let s : Text := "ws://\u2603".toText
    let s' : Text := "ws://h/it's\t".toText
    let b : List UInt8 := [119, 115, 58, 47, 47, 233]
    let encode : Text → Except Fault Text := fun host =>
      .error ⟨.domainName, [.text ("Codepoint U+2603 at position 1 of ".toText ++ quoted host ++
        " not allowed".toText)]⟩
    (∀ host f, encode host = .error f → f.kind.isA .domainName = true) ∧
    (∃ f, parse (names encode) s = .error f ∧ Refuses f s) ∧
    (∃ f, convert (names encode) (.locator (.ok (.text s'))) = .error f ∧ f.kind = .location ∧
      f.message =
        "Failed to convert the given URL into a URI: \"ws://h/it's\\t\"".toText) ∧
    ∃ f, convert (names encode) (.locator (.ok (.bytes b))) = .error f ∧ f.kind = .location ∧
      f.message = "Failed to convert the given URL into a URI: b'ws://\\xe9'".toText := by
  intro s s' b encode
  have own : ∀ host f, encode host = .error f → f.kind.isA .domainName = true := by
    intro host f failed
    exact Except.error.inj failed ▸ rfl
  obtain ⟨parses, converts⟩ := refusals_reported_iff own
  have encodable {t : Text} (plain : t.any CodePoint.isSurrogate = false) (e : EncodingError) :
      ¬ Url.Unencodable (names encode) t e := fun unencodable => by
    rw [((parses t).2.2 e unencodable).1] at plain
    cases plain
  refine ⟨own, ?_, ?_, ?_⟩
  · have unparsed : (parse (names encode) s).toOption = none := by decide +kernel
    have reported := (parses s).2.1.mpr fun ⟨e, he⟩ => encodable (by decide +kernel) e he
    rcases reported with ⟨u, parsed⟩ | refused
    · rw [parsed] at unparsed
      cases unparsed
    · exact refused
  · have unparsed : (parse (names encode) s').toOption = none := by decide +kernel
    have conversion := (converts (.locator (.ok (.text s'))) _ rfl).2
    generalize convert (names encode) (.locator (.ok (.text s'))) = result at conversion
    cases conversion with
    | parsed text parsed =>
      cases text
      rw [parsed] at unparsed
      cases unparsed
    | refused text _ refuses =>
      cases text
      exact ⟨_, rfl, refuses.location, refuses.message.trans (by decide +kernel)⟩
    | unencodable text surrogates =>
      cases text
      exact absurd surrogates (encodable (by decide +kernel) _)
  · have undecoded : (Rendering.bytes b).text? = none := by decide +kernel
    have conversion := (converts (.locator (.ok (.bytes b))) _ rfl).2
    generalize convert (names encode) (.locator (.ok (.bytes b))) = result at conversion
    cases conversion with
    | parsed text _ | refused text _ _ | unencodable text _ => cases undecoded.symm.trans text
    | undecodable _ refuses =>
      exact ⟨_, rfl, refuses.location, refuses.message.trans (by decide +kernel)⟩

/-- The path of this text, a slash and a surrogate, cannot be encoded. The error is the same whether
the text is parsed or an object gives it, and neither layer reports it as its own. -/
theorem refusals_reported_surrogate :
    let s : Text := "ws://h/".toText ++ [.surrogate 0x4FF]
    let f : Failure := .unencodable ⟨1, [.surrogate 0x4FF]⟩
    (parse .asciiOnly s = .error f ∧ convert .asciiOnly (.locator (.ok (.text s))) = .error f) ∧
    (f.kind = .encoding ∧ f.isLocation = false ∧
      f.message = "'utf-8' codec can't encode character '\\udcff' in position 1: ".toText ++
        "surrogates not allowed".toText) ∧
    ¬ ((∃ u, parse .asciiOnly s = .ok u) ∨ ∃ f, parse .asciiOnly s = .error f ∧ Refuses f s) := by
  intro s f
  have parsed : parse .asciiOnly s = .error f := rfl
  refine ⟨⟨parsed, rfl⟩, ⟨rfl, rfl, by decide +kernel⟩, fun reported => ?_⟩
  exact (parse_or_refuses_iff .asciiOnly s).mp reported ⟨_, parse_eq_unencodable_iff.mp parsed⟩

end Reference

end Dialer
