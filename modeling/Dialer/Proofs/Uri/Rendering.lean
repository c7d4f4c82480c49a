import Dialer.Proofs.Uri.NormalForm

/-!
# Parts put together again

Taking a text apart and putting its parts together again gives another text: the scheme is in lower
case, and an empty query and an empty fragment are gone. Where the text names a host, nothing else
is lost.

* `Pieces.rendered` are the pieces of the other text (`text_rendered`), and `split_rendered` says
  that it has the same parts.
* `parseWith_toText_parts` says which URL it has. `toText_paramParts` says when setting the
  parameters of the path apart makes no difference.
-/

namespace Dialer

open Uri Text

namespace Uri

/-! ## Pieces -/

/-- A text that is not empty. -/
def nonempty (o : Option Text) : Option Text := o.filter (!·.isEmpty)

variable {o : Option Text} {t : Text}

theorem mem_nonempty_iff : t ∈ nonempty o ↔ t ∈ o ∧ t ≠ [] := by
  simp [nonempty, Option.filter_eq_some_iff]

theorem nonempty_nil : nonempty (some []) = none := rfl

theorem nonempty_some (h : t ≠ []) : nonempty (some t) = some t := by
  obtain ⟨c, t, rfl⟩ := List.exists_cons_of_ne_nil h
  rfl

theorem getD_nonempty (o : Option Text) : (nonempty o).getD [] = o.getD [] := by
  rcases o with _ | _ | ⟨c, t⟩ <;> rfl

theorem marked_getD (mark : CodePoint) (o : Option Text) :
    marked mark (o.getD []) = (nonempty o).elim [] (mark :: ·) := by
  rcases o with _ | _ | ⟨c, t⟩ <;> rfl

namespace Pieces

/-- The pieces after taking apart and putting together. -/
def rendered (p : Pieces) : Pieces where
  scheme := p.scheme.map (·.map CodePoint.toLower)
  authority := p.authority
  path := p.path
  query := nonempty p.query
  fragment := nonempty p.fragment

variable {p : Pieces} {a : Text}

theorem parts_rendered (p : Pieces) : p.rendered.parts = p.parts := by
  have scheme : p.rendered.parts.scheme = p.parts.scheme := by
    cases hs : p.scheme with
    | none => simp only [parts, rendered, hs, Option.map_none, Option.elim_none]
    | some s =>
      simp only [parts, rendered, hs, Option.map_some, Option.elim_some]
      exact toLower_map_toLower s
  simp only [parts] at scheme ⊢
  rw [scheme]
  simp only [rendered, getD_nonempty]

/-- **Putting parts together keeps the pieces**, after an authority. -/
theorem text_rendered (h : p.Delimited) (ha : p.authority = some a) (filled : a ≠ []) :
    p.parts.toText = p.rendered.text := by
  have scheme : (if p.parts.scheme.isEmpty then [] else p.parts.scheme ++ [char ':']) =
      (p.rendered.scheme.elim [] (· ++ [char ':']) : Text) := by
    cases hs : p.scheme with
    | none => simp [parts, rendered, hs]
    | some s =>
      rcases s with _ | ⟨c, s⟩
      · cases h.scheme [] hs
      · simp [parts, rendered, hs]
  have hier : p.parts.hierarchy = p.rendered.hierText := by
    have begins := h.path
    rw [ha] at begins
    have rooted : (p.path.isEmpty || p.path.head? = some (char '/')) = true := by
      rcases begins with empty | slash
      · simp [empty]
      · simp [slash]
    have authority : p.parts.authority = a := by simp [parts, ha]
    have path : p.parts.path = p.path := rfl
    have present : a.isEmpty = false := by simpa using filled
    simp [Parts.hierarchy, authority, path, present, rooted, hierText, rendered, ha]
  rw [Parts.toText, scheme, hier, text, endText, List.append_assoc, List.append_assoc]
  simp only [parts, marked_getD, rendered]

theorem Delimited.rendered (h : p.Delimited) (ha : p.authority = some a) :
    p.rendered.Delimited where
  authority := h.authority
  path := h.path
  path_query := h.path_query
  path_fragment := h.path_fragment
  query_fragment q hq := h.query_fragment q (mem_nonempty_iff.mp hq).1
  scheme s hs := by
    obtain ⟨s', hs', rfl⟩ := Option.map_eq_some_iff.mp hs
    rw [isScheme_map_toLower]
    exact h.scheme s' hs'
  unschemed none := by
    have slashes :
        p.rendered.text = char '/' :: char '/' :: (a ++ (p.path ++ p.rendered.endText)) := by
      simp only [text, none, hierText, Option.elim_none, List.nil_append]
      simp [Pieces.rendered, ha]
    rw [slashes]
    exact cutScheme_slash _

/-- A rendered text passes the checks that the text has passed. -/
theorem Delimited.legal_rendered (h : p.Delimited) (ha : p.authority = some a)
    (legal : p.text.any isIllegal = false) : p.rendered.text.any isIllegal = false := by
  obtain ⟨authority, path, query, fragment⟩ := any_of_text legal
  exact (h.rendered ha).legal_text authority path
    (fun q hq => query q (mem_nonempty_iff.mp hq).1)
    (fun f hf => fragment f (mem_nonempty_iff.mp hf).1)

theorem Delimited.escapesFit_rendered (h : p.Delimited) (ha : p.authority = some a)
    (fits : escapesFit p.text = true) : escapesFit p.rendered.text = true := by
  obtain ⟨hier, query, fragment⟩ := h.escapesFit_text.mp fits
  exact (h.rendered ha).escapesFit_text.mpr ⟨hier,
    fun q hq => query q (mem_nonempty_iff.mp hq).1,
    fun f hf => fragment f (mem_nonempty_iff.mp hf).1⟩

/-- **The rendered text has the same parts.** -/
theorem Delimited.split_rendered (h : p.Delimited) (ha : p.authority = some a)
    (legal : p.text.any isIllegal = false) : Parts.split p.rendered.text = Parts.split p.text := by
  rw [(h.rendered ha).split_text (h.legal_rendered ha legal), h.split_text legal, parts_rendered]

theorem isAscii_rendered (ascii : p.text.isAscii = true) : p.rendered.text.isAscii = true := by
  have part {mark : CodePoint} {o : Option Text}
      (h : (o.elim [] (mark :: ·) : Text).isAscii = true) :
      ((nonempty o).elim [] (mark :: ·) : Text).isAscii = true := by
    rcases o with _ | _ | ⟨c, t⟩
    · exact h
    · rfl
    · exact h
  have lowered {o : Option Text} (h : (o.elim [] (· ++ [char ':']) : Text).isAscii = true) :
      ((o.map (·.map CodePoint.toLower)).elim [] (· ++ [char ':']) : Text).isAscii = true := by
    cases o with
    | none => rfl
    | some s => simpa [isAscii, toNat_toLower_lt_iff] using h
  simp only [text, endText, isAscii_append, Bool.and_eq_true] at ascii ⊢
  obtain ⟨scheme, hier, query, fragment⟩ := ascii
  exact ⟨lowered scheme, hier, part query, part fragment⟩

end Pieces

/-! ## Parameters -/

/-- A cut is undone by joining, unless nothing follows it. -/
theorem cutFirst_marked {c : CodePoint} {s : Text} (h : s.getLast? ≠ some c) :
    (cutFirst c s).1 ++ marked c ((cutFirst c s).2.getD []) = s := by
  rcases cut : cutFirst c s with ⟨before, after⟩
  obtain ⟨rfl, -⟩ := eq_of_cutFirst cut
  rw [marked_getD]
  rcases after with _ | after
  · rfl
  · rw [nonempty_some]
    rintro rfl
    simp at h

/-- Parameters are put back where they were, unless the path ends in an empty one. -/
theorem cutParams_marked {path : Text} (h : path.getLast? ≠ some (char ';')) :
    (cutParams path).1 ++ marked ';' (cutParams path).2 = path := by
  rw [cutParams]
  rcases cut : cutLast '/' path with ⟨_ | before, segment⟩
  · obtain ⟨rfl, -⟩ := eq_of_cutLast cut
    exact cutFirst_marked h
  · obtain ⟨rfl, -⟩ := eq_of_cutLast cut
    have last : segment.getLast? ≠ some (char ';') := by
      intro last
      rw [List.getLast?_append, last] at h
      exact h rfl
    have whole := cutFirst_marked last
    simpa using whole

/-- **Parameters set apart make no difference** to the text of the parts. -/
theorem toText_paramParts {s : Text} {parts : Parts} (split : Parts.split s = .ok parts)
    (h : parts.path.getLast? ≠ some (char ';')) :
    ∃ apart, ParamParts.split s = .ok apart ∧ apart.toText = parts.toText := by
  rw [ParamParts.split, split]
  cases params : hasParams parts.scheme with
  | false =>
    refine ⟨_, by simp only [bind, Except.bind, params]; rfl, ?_⟩
    simp [ParamParts.toText, marked]
  | true =>
    refine ⟨_, by simp only [bind, Except.bind, params]; rfl, ?_⟩
    simp [ParamParts.toText, cutParams_marked h]

end Uri

namespace Url

variable {encode : HostEncoding} {s : Text} {u : Url} {parts : Parts}

/-- The URL without its query if that is empty. -/
def withoutEmptyQuery (u : Url) : Url := { u with query := nonempty u.query }

theorem withoutEmptyQuery_eq_self (h : u.query ≠ some []) : u.withoutEmptyQuery = u := by
  obtain ⟨scheme, userInfo, host, port, path, _ | _ | ⟨c, q⟩⟩ := u
  · rfl
  · exact absurd rfl h
  · rfl

/-- A text whose URL names a host has an authority. -/
theorem exists_authority (parsed : parseWith encode s = .ok u) (split : Parts.split s = .ok parts)
    (named : u.host ≠ none) : ∃ (p : Pieces) (a : Text), p.Delimited ∧ p.text = s ∧
      p.parts = parts ∧ p.authority = some a ∧ a ≠ [] := by
  obtain ⟨legal, -, parts', port, host, split', -, encoded, -, rfl⟩ :=
    parseWith_eq_ok_iff.mp parsed
  obtain rfl := Except.ok.inj (split.symm.trans split')
  obtain ⟨p, delimited, rfl⟩ := Pieces.exists_pieces s
  obtain ⟨rfl, -⟩ := delimited.eq_of_split legal split
  have filled : p.parts.authority ≠ [] := by
    intro empty
    rw [empty] at encoded
    exact named (Except.ok.inj encoded).symm
  cases ha : p.authority with
  | none => exact absurd (by simp [Pieces.parts, ha]) filled
  | some a => exact ⟨p, a, delimited, rfl, rfl, ha, by simpa [Pieces.parts, ha] using filled⟩

theorem hasQuery_rendered {p : Pieces} {a : Text} (h : p.Delimited) (ha : p.authority = some a)
    (present : hasQuery p.rendered.text = true) : hasQuery p.text = true := by
  rw [(h.rendered ha).hasQuery_text] at present
  obtain ⟨q, hq⟩ := Option.isSome_iff_exists.mp present
  rw [h.hasQuery_text, (mem_nonempty_iff.mp hq).1, Option.isSome_some]

/-- The URL of the rendered text has no query instead of an empty one. -/
theorem ofParts_rendered {p : Pieces} {a : Text} (h : p.Delimited) (ha : p.authority = some a)
    (port : Option Nat) (host : Option Text) :
    ofParts p.rendered.text p.parts port host =
      (ofParts p.text p.parts port host).withoutEmptyQuery := by
  have query : (if p.rendered.query.isSome then some (asciiForm p.parts.query) else none) =
      nonempty (if p.query.isSome then some (asciiForm p.parts.query) else none) := by
    rcases hq : p.query with _ | q
    · simp only [Pieces.rendered, hq]
      rfl
    · by_cases filled : q = []
      · subst filled
        have empty : asciiForm [] = [] := rfl
        simp [Pieces.rendered, Pieces.parts, hq, nonempty_nil, empty]
      · simp [Pieces.rendered, Pieces.parts, hq, nonempty_some filled,
          nonempty_some (asciiForm_ne_nil filled)]
  simp only [ofParts, withoutEmptyQuery, (h.rendered ha).hasQuery_text, h.hasQuery_text, query]

/-- **The text of the parts has the same URL**, but for an empty query. -/
theorem parseWith_toText_parts (parsed : parseWith encode s = .ok u)
    (split : Parts.split s = .ok parts) (named : u.host ≠ none) :
    parseWith encode parts.toText = .ok u.withoutEmptyQuery := by
  obtain ⟨p, a, delimited, rfl, rfl, ha, filled⟩ := exists_authority parsed split named
  obtain ⟨legal, fits, parts, port, host, split', hasPort, encoded, checked, rfl⟩ :=
    parseWith_eq_ok_iff.mp parsed
  obtain rfl := Except.ok.inj (split.symm.trans split')
  rw [Pieces.text_rendered delimited ha filled]
  refine parseWith_eq_ok_iff.mpr ⟨delimited.legal_rendered ha legal,
    delimited.escapesFit_rendered ha fits, p.parts, port, host,
    (delimited.split_rendered ha legal).trans split, hasPort, encoded, ?_,
    (ofParts_rendered delimited ha port host).symm⟩
  exact { checked with
    query := fun present => checked.query (hasQuery_rendered delimited ha present) }

theorem isAscii_toText_parts (parsed : parseWith encode s = .ok u)
    (split : Parts.split s = .ok parts) (named : u.host ≠ none) (ascii : s.isAscii = true) :
    parts.toText.isAscii = true := by
  obtain ⟨p, a, delimited, rfl, rfl, ha, filled⟩ := exists_authority parsed split named
  rw [Pieces.text_rendered delimited ha filled]
  exact Pieces.isAscii_rendered ascii

end Url

end Dialer
