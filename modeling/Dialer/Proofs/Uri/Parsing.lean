import Dialer.Proofs.Text.Ascii
import Dialer.Uri.Parse
import Mathlib

/-!
# What it takes for a text to parse

Parsing checks a text step by step. `parseWith_eq_ok_iff` lists the steps, so that what follows
about URLs that parse need not open the parser.
-/

namespace Dialer

/-! ## Computations that may fail -/

section

variable {ε ε' ε'' α β : Type} {x : Except ε α} {f : α → Except ε β}

theorem bind_eq_ok {b : β} : (x >>= f) = .ok b ↔ ∃ a, x = .ok a ∧ f a = .ok b := by
  cases x <;> simp [bind, Except.bind]

theorem bind_congr_of_ok {g : α → Except ε β} (h : ∀ a, x = .ok a → f a = g a) :
    x >>= f = x >>= g := by
  cases x with
  | error e => rfl
  | ok a => exact h a rfl

theorem toOption_eq_some {a : α} : x.toOption = some a ↔ x = .ok a := by
  cases x <;> simp [Except.toOption]

theorem mapError_eq_ok {g : ε → ε'} {a : α} : x.mapError g = .ok a ↔ x = .ok a := by
  cases x <;> simp [Except.mapError]

theorem exists_map_eq_ok {g : α → β} : (∃ b, x.map g = .ok b) ↔ ∃ a, x = .ok a := by
  cases x <;> simp [Except.map]

theorem mapError_mapError (x : Except ε α) (g : ε → ε') (g' : ε' → ε'') :
    (x.mapError g).mapError g' = x.mapError fun e => g' (g e) := by
  cases x <;> rfl

theorem mapError_bind (x : Except ε α) (f : α → Except ε β) (g : ε → ε') :
    (x >>= f).mapError g = x.mapError g >>= fun a => (f a).mapError g := by
  cases x <;> rfl

theorem mapError_mapM (o : Option α) (f : α → Except ε β) (g : ε → ε') :
    (o.mapM f).mapError g = o.mapM fun a => (f a).mapError g := by
  cases o with
  | none => rfl
  | some a =>
    show (f a >>= fun b => Except.ok (some b)).mapError g = _
    rw [mapError_bind]
    rfl

theorem mapError_forM (o : Option α) (f : α → Except ε Unit) (g : ε → ε') :
    (o.forM f).mapError g = o.forM fun a => (f a).mapError g := by
  cases o <;> rfl

end

namespace Uri

theorem encodingError?_eq_none_iff {s : Text} :
    encodingError? s = none ↔ s.any CodePoint.isSurrogate = false := by
  have none : (s.dropWhile (!·.isSurrogate)).isEmpty = true ↔
      s.any CodePoint.isSurrogate = false := by
    rw [List.isEmpty_iff, List.dropWhile_eq_nil_iff, List.any_eq_false]
    simp
  rw [← none, encodingError?]
  split <;> simp_all

end Uri

namespace Url

open Uri

theorem checkComponent_eq_ok {component : Component} {s : Text} {done : Unit} :
    checkComponent component s = .ok done ↔ s.all component.allows = true := by
  unfold checkComponent
  split <;> simp_all

/-- The check of a component that may be missing. -/
theorem forM_checkComponent_eq_ok {component : Component} {o : Option Text} {done : Unit} :
    o.forM (checkComponent component) = .ok done ↔ ∀ s ∈ o, s.all component.allows = true := by
  cases o with
  | none => simp [Option.forM, pure, Except.pure]
  | some s => simpa [Option.forM] using checkComponent_eq_ok

theorem asciiComponent_eq_ok {s t : Text} :
    asciiComponent s = .ok t ↔ s.any CodePoint.isSurrogate = false ∧ asciiForm s = t := by
  rw [asciiComponent, mapError_eq_ok, encodeComponent]
  cases failed : encodingError? s with
  | some e =>
    have surrogates :=
      encodingError?_eq_none_iff.not.mp (Option.ne_none_iff_exists'.mpr ⟨e, failed⟩)
    exact iff_of_false nofun fun both => surrogates both.1
  | none => simp [encodingError?_eq_none_iff.mp failed]

theorem mapM_asciiComponent_eq_ok {o o' : Option Text} :
    o.mapM asciiComponent = .ok o' ↔
      (∀ s ∈ o, s.any CodePoint.isSurrogate = false) ∧ o.map asciiForm = o' := by
  cases o with
  | none => simp [Option.mapM, pure, Except.pure]
  | some s =>
    have one : (some s).mapM asciiComponent = asciiComponent s >>= fun t => .ok (some t) := rfl
    rw [one, bind_eq_ok]
    constructor
    · rintro ⟨t, encoded, same⟩
      obtain ⟨plain, rfl⟩ := asciiComponent_eq_ok.mp encoded
      exact ⟨fun s' mem => Option.some.inj mem ▸ plain, Except.ok.inj same⟩
    · rintro ⟨plain, rfl⟩
      exact ⟨_, asciiComponent_eq_ok.mpr ⟨plain s rfl, rfl⟩, rfl⟩

/-- An ASCII host is its own ASCII form. -/
theorem mapM_asciiHost_of_isAscii {encode : HostEncoding} {o : Option Text}
    (ascii : ∀ h ∈ o, h.isAscii = true) : o.mapM (asciiHost encode) = .ok o := by
  cases o with
  | none => rfl
  | some h =>
    have same : asciiHost encode h = .ok h := if_pos (ascii h rfl)
    simp only [Option.mapM_some, same]
    rfl

/-- The URL of the parts of a text, once they have passed their checks. -/
def ofParts (s : Text) (parts : Parts) (port : Option Nat) (host : Option Text) : Url where
  scheme := if parts.scheme.isEmpty then none else some parts.scheme
  userInfo := (Authority.userInfo parts.authority).map asciiForm
  host
  port := port.map Int.ofNat
  path := some (asciiForm parts.path)
  query := if hasQuery s then some (asciiForm parts.query) else none

/-- Encodes the parts of a text and checks their characters. -/
def checkParts (s : Text) (parts : Parts) : Except ParseError Unit := do
  let _ ← (Authority.userInfo parts.authority).mapM asciiComponent
  let _ ← asciiComponent parts.path
  let _ ← (if hasQuery s then some parts.query else none).mapM asciiComponent
  let _ ← asciiComponent parts.fragment
  ((Authority.userInfo parts.authority).map asciiForm).forM (checkComponent .userInfo)
  checkComponent .path (asciiForm parts.path)
  (if hasQuery s then some (asciiForm parts.query) else none).forM (checkComponent .query)
  checkComponent .fragment (asciiForm parts.fragment)

section

variable {encode : HostEncoding} {s : Text}

theorem parseWith_of_illegal (illegal : s.any isIllegal = true) :
    parseWith encode s = .error .illegalCharacter := by
  rw [parseWith, illegal]
  rfl

theorem parseWith_of_malformed (legal : s.any isIllegal = false)
    (malformed : escapesFit s = false) :
    parseWith encode s = .error .malformedEscape := by
  rw [parseWith, legal, malformed]
  rfl

theorem parseWith_of_unsplittable {e : AuthorityError} (legal : s.any isIllegal = false)
    (fits : escapesFit s = true) (split : Parts.split s = .error e) :
    parseWith encode s = .error (.authority e) := by
  rw [parseWith, legal, fits, split]
  rfl

end

/-- What is left to do once a text has been split. -/
theorem parseWith_of_split {encode : HostEncoding} {s : Text} {parts : Parts}
    (legal : s.any isIllegal = false) (fits : escapesFit s = true)
    (split : Parts.split s = .ok parts) :
    parseWith encode s = (do
      let port ← (Authority.port parts.authority).mapError .authority
      let host ← (Authority.host parts.authority).mapM (asciiHost encode)
      checkParts s parts
      return ofParts s parts port host) := by
  rw [parseWith, legal, fits, split]
  simp only [checkParts, bind_assoc]
  change (Authority.port parts.authority).mapError ParseError.authority >>= _ = _
  refine bind_congr fun port => bind_congr fun host => ?_
  refine bind_congr_of_ok fun userInfo encoded => ?_
  obtain ⟨-, rfl⟩ := mapM_asciiComponent_eq_ok.mp encoded
  refine bind_congr_of_ok fun path encoded => ?_
  obtain ⟨-, rfl⟩ := asciiComponent_eq_ok.mp encoded
  refine bind_congr_of_ok fun query encoded => ?_
  obtain ⟨-, rfl⟩ := mapM_asciiComponent_eq_ok.mp encoded
  refine bind_congr_of_ok fun fragment encoded => ?_
  obtain ⟨-, rfl⟩ := asciiComponent_eq_ok.mp encoded
  rw [ofParts, apply_ite (Option.map asciiForm), Option.map_some, Option.map_none]

/-- The text can be encoded, and then has the characters that the component allows. -/
structure Encodes (component : Component) (s : Text) : Prop where
  plain : s.any CodePoint.isSurrogate = false
  chars : (asciiForm s).all component.allows = true

theorem encodes_iff_of_isAscii {component : Component} {s : Text} (ascii : s.isAscii = true) :
    Encodes component s ↔ s.all component.allows = true := by
  constructor
  · intro h
    rw [← asciiForm_of_isAscii ascii]
    exact h.chars
  · intro chars
    exact ⟨Text.any_isSurrogate_of_isAscii ascii, (asciiForm_of_isAscii ascii).symm ▸ chars⟩

/-- The parts of a text can be encoded, with the characters that their components allow. -/
structure Checked (s : Text) (parts : Parts) : Prop where
  userInfo : ∀ t ∈ Authority.userInfo parts.authority, Encodes .userInfo t
  path : Encodes .path parts.path
  query : hasQuery s = true → Encodes .query parts.query
  fragment : Encodes .fragment parts.fragment

theorem checkParts_eq_ok_iff {s : Text} {parts : Parts} {done : Unit} :
    checkParts s parts = .ok done ↔ Checked s parts := by
  have asked {p : Text → Prop} {t : Text} :
      (∀ t' ∈ (if hasQuery s then some t else none), p t') ↔ (hasQuery s = true → p t) := by
    split <;> simp_all
  unfold checkParts
  simp only [bind_eq_ok, mapM_asciiComponent_eq_ok, asciiComponent_eq_ok, forM_checkComponent_eq_ok,
    checkComponent_eq_ok, asked]
  constructor
  · rintro ⟨_, ⟨user, -⟩, _, ⟨path, -⟩, _, ⟨query, -⟩, _, ⟨fragment, -⟩, _, userChars, _, pathChars,
      _, queryChars, fragmentChars⟩
    exact ⟨fun t ht => ⟨user t ht, userChars _ (Option.mem_map_of_mem _ ht)⟩, ⟨path, pathChars⟩,
      fun present => ⟨query present, queryChars present⟩, ⟨fragment, fragmentChars⟩⟩
  · rintro ⟨user, path, query, fragment⟩
    refine ⟨_, ⟨fun t ht => (user t ht).plain, rfl⟩, _, ⟨path.plain, rfl⟩, _,
      ⟨fun present => (query present).plain, rfl⟩, _, ⟨fragment.plain, rfl⟩, (), ?_, (), path.chars,
      (), fun present => (query present).chars, fragment.chars⟩
    intro _ mapped
    obtain ⟨t, ht, rfl⟩ := Option.mem_map.mp mapped
    exact (user t ht).chars

/-- **A text parses** when it passes the checks on the whole of it, has an authority with a port
and a host, and parts that pass theirs. -/
theorem parseWith_eq_ok_iff {encode : HostEncoding} {s : Text} {u : Url} :
    parseWith encode s = .ok u ↔
      s.any isIllegal = false ∧ escapesFit s = true ∧ ∃ parts port host,
        Parts.split s = .ok parts ∧ Authority.port parts.authority = .ok port ∧
        (Authority.host parts.authority).mapM (asciiHost encode) = .ok host ∧
        Checked s parts ∧ u = ofParts s parts port host := by
  cases legal : s.any isIllegal with
  | true => simp [parseWith_of_illegal legal]
  | false =>
    cases fits : escapesFit s with
    | false => simp [parseWith_of_malformed legal fits]
    | true =>
      cases split : Parts.split s with
      | error e => simp [parseWith_of_unsplittable legal fits split]
      | ok parts =>
        rw [parseWith_of_split legal fits split]
        simp only [bind_eq_ok, mapError_eq_ok, checkParts_eq_ok_iff, pure, Except.pure,
          Except.ok.injEq, true_and, exists_const, eq_comm (a := u)]
        simp [exists_and_left]

end Url

end Dialer
