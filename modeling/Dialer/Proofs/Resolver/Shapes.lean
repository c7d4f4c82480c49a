import Dialer.Proofs.Uri.Rendering
import Dialer.Resolver

/-!
# Shapes of references

A URL may be handed over as a text, as a URL that has been parsed, or as an object that the text has
been taken apart into. It makes no difference which.

* `Reference.StandsFor` says that an object is as good as a text, but for an empty query.
* `Reference.splitBytes` takes bytes apart.
* `Reference.shapes_agree` says that all shapes of a text agree.
-/

namespace Dialer

open Uri Text

/-! ## Bytes -/

/-- The bytes of an ASCII text. -/
def asciiBytes (s : Text) : List UInt8 := s.map fun c => c.toNat.toUInt8

/-- The text of ASCII bytes. -/
def asciiText (b : List UInt8) : Text := b.map fun byte => CodePoint.ofNat byte.toNat

theorem toNat_toUInt8 {c : CodePoint} (h : c.toNat < 128) : c.toNat.toUInt8.toNat = c.toNat :=
  Nat.mod_eq_of_lt (by omega)

theorem asciiText_asciiBytes {s : Text} (h : s.isAscii = true) : asciiText (asciiBytes s) = s := by
  rw [asciiText, asciiBytes, List.map_map]
  refine (List.map_congr_left fun c hc => ?_).trans (List.map_id s)
  rw [Function.comp_apply, toNat_toUInt8 (toNat_lt_of_isAscii h hc), CodePoint.ofNat_toNat, id]

theorem all_asciiBytes {s : Text} (h : s.isAscii = true) :
    ((asciiBytes s).all fun byte => byte.toNat < 128) = true := by
  rw [asciiBytes, List.all_map]
  refine List.all_eq_true.mpr fun c hc => ?_
  have small := toNat_lt_of_isAscii h hc
  simpa [toNat_toUInt8 small] using small

namespace Reference

/-- What ASCII bytes are taken apart into: an object whose URL is again bytes. -/
def splitBytes (b : List UInt8) : Except AuthorityError Reference :=
  (Parts.split (asciiText b)).map fun parts => .locator (.ok (.bytes (asciiBytes parts.toText)))

/-- The bytes of a text are converted as the text is. -/
theorem convertRendering_asciiBytes {encode : HostEncoding} {s : Text} (h : s.isAscii = true) :
    convertRendering encode (.bytes (asciiBytes s)) = convertText encode s := by
  rw [convertRendering, if_pos (all_asciiBytes h)]
  exact congrArg (convertText encode) (asciiText_asciiBytes h)

/-! ## Objects that stand for a text -/

/-- The object has the URL `u` of the text, without the query if that is empty. If it is not,
resolving the object is resolving the text. -/
structure StandsFor (encode : HostEncoding) (r : Reference) (s : Text) (u : Url) : Prop where
  convert : r.convert encode = .ok u.withoutEmptyQuery
  resolve : u.query ≠ some [] → ∀ o, resolve encode o r = resolve encode o (.text s)

variable {encode : HostEncoding} {r r' : Reference} {s t : Text} {u : Url} {parts : Parts}
    {rendering : Rendering}
  {answer : Except Failure Rendering}

/-- Resolving depends on the URL of a reference only. -/
theorem resolve_congr (h : r.toUrl encode = r'.toUrl encode) (o : Overrides) :
    Dialer.resolve encode o r = Dialer.resolve encode o r' := by
  rw [Dialer.resolve, Dialer.resolve, Endpoint.ofReference, Endpoint.ofReference, h]

theorem toUrl_of_rendering (h : r.rendering? = some answer) :
    r.toUrl encode = answer.bind (convertRendering encode) := by
  unfold toUrl
  rw [h]

theorem convert_of_rendering (h : r.rendering? = some answer) :
    r.convert encode = r.toUrl encode := by
  cases r with
  | missing => cases h
  | _ => rfl

/-- An object stands for a text when it says that its URL is that of the text's parts. -/
theorem standsFor_of_rendering (parsed : parse encode s = .ok u) (named : u.host ≠ none)
    (split : Parts.split s = .ok parts) (h : r.rendering? = some (.ok rendering))
    (same : convertRendering encode rendering = convertText encode parts.toText) :
    r.StandsFor encode s u := by
  have parsed' : Url.parseWith encode s = .ok u := mapError_eq_ok.mp parsed
  have again : r.toUrl encode = .ok u.withoutEmptyQuery := by
    rw [toUrl_of_rendering h]
    show convertRendering encode rendering = _
    rw [same]
    exact mapError_eq_ok.mpr (Url.parseWith_toText_parts parsed' split named)
  refine ⟨(convert_of_rendering h).trans again, fun query => resolve_congr ?_⟩
  rw [again, Url.withoutEmptyQuery_eq_self query]
  exact parsed.symm

/-- **The shapes of a reference agree.** The URL of a text that names a host may be handed over as
it is, or as what the text or its bytes are taken apart into. -/
theorem shapes_agree (parsed : parse encode s = .ok u) (named : u.host ≠ none) :
    ((url u).toUrl encode = .ok u ∧
        ∀ o, Dialer.resolve encode o (url u) = Dialer.resolve encode o (text s)) ∧
      (split s).StandsFor encode s u ∧
      (s.isAscii = true → ∃ r, splitBytes (asciiBytes s) = .ok r ∧ r.StandsFor encode s u) ∧
      ((∀ parts, Parts.split s = .ok parts → parts.path.getLast? ≠ some (char ';')) →
        (splitParams s).StandsFor encode s u) := by
  have parsed' : Url.parseWith encode s = .ok u := mapError_eq_ok.mp parsed
  obtain ⟨-, -, parts, -, -, apart, -⟩ := Url.parseWith_eq_ok_iff.mp parsed'
  have stands {r : Reference} (rendering : Rendering) (h : r.rendering? = some (.ok rendering))
      (same : convertRendering encode rendering = convertText encode parts.toText) :
      r.StandsFor encode s u :=
    standsFor_of_rendering parsed named apart h same
  refine ⟨⟨rfl, resolve_congr parsed.symm⟩, stands (.text parts.toText) ?_ rfl, fun ascii => ?_,
    fun path => ?_⟩
  · rw [rendering?, apart]
    rfl
  · refine ⟨.locator (.ok (.bytes (asciiBytes parts.toText))), ?_, stands _ rfl ?_⟩
    · rw [splitBytes, asciiText_asciiBytes ascii, apart]
      rfl
    · exact convertRendering_asciiBytes (Url.isAscii_toText_parts parsed' apart named ascii)
  · obtain ⟨withParams, apart', same⟩ := toText_paramParts apart (path parts apart)
    refine stands (.text withParams.toText) ?_ (congrArg (convertText encode) same)
    rw [rendering?, apart']
    rfl

/-- A text that its parts give back otherwise: the scheme is in capitals, the fragment is empty, and
there are parameters in a path after a bracketed host. -/
theorem shapes_agree_bracketed :
    let s : Text := "HTTP://[::1]:80/a;b/c;d?q;r=/?#".toText
    let u : Url := {
      scheme := some "http".toText
      host := some "::1".toText
      port := some 80
      path := some "/a;b/c;d".toText
      query := some "q;r=/?".toText }
    (parse .asciiOnly s = .ok u ∧ u.host ≠ none) ∧
      (∀ o, Dialer.resolve .asciiOnly o (url u) = Dialer.resolve .asciiOnly o (text s)) ∧
      (split s).StandsFor .asciiOnly s u ∧
      (∃ r, splitBytes (asciiBytes s) = .ok r ∧ r.StandsFor .asciiOnly s u) ∧
      (splitParams s).StandsFor .asciiOnly s u := by
  intro s u
  have parsed : parse .asciiOnly s = .ok u :=
    mapError_eq_ok.mpr (toOption_eq_some.mp (by decide +kernel))
  have named : u.host ≠ none := nofun
  obtain ⟨⟨-, same⟩, splits, bytes, params⟩ := shapes_agree parsed named
  refine ⟨⟨parsed, named⟩, same, splits, bytes (by decide +kernel), params fun parts apart => ?_⟩
  have path : (Parts.split s).toOption.map (·.path) = some "/a;b/c;d".toText := by decide +kernel
  rw [apart] at path
  rw [show parts.path = "/a;b/c;d".toText from Option.some.inj path]
  decide

end Reference

end Dialer
