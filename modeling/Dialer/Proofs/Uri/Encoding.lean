import Dialer.Proofs.Uri.NormalForm

/-!
# Encoding before parsing

A URL may have characters beyond ASCII, which parsing turns into escapes once the text is split.
Outside the authority, escaping them before the text is parsed gives the same URL.

* `encoded` escapes every character beyond ASCII. It neither adds nor removes a delimiter
  (`mem_encoded_iff`), so that it leaves every cut where it was (`cutFirst_encoded`).
* `split_encoded` says that splitting finds the same parts, and `asciiForm_encoded` that they have
  the same ASCII form. `parse_encoded` is the result.
-/

namespace Dialer

open Uri Text

namespace Uri

/-! ## Characters -/

/-- The escapes of a character beyond ASCII. Any other character stands for itself. -/
def spelled (c : CodePoint) : Text := if c.toNat < 128 then [c] else escapes c

theorem spelled_of_ascii {c : CodePoint} (h : c.toNat < 128) : spelled c = [c] := if_pos h

theorem spelled_of_not_ascii {c : CodePoint} (h : ¬c.toNat < 128) : spelled c = escapes c :=
  if_neg h

theorem mem_escapes {c d : CodePoint} (h : c ∈ escapes d) : c = '%' ∨ isHexDigit c = true := by
  obtain ⟨b, -, hc⟩ := List.mem_flatMap.mp h
  have byte : b.toNat < 256 := b.toNat_lt
  rcases List.mem_cons.mp hc with rfl | hc
  · exact Or.inl rfl
  rcases List.mem_cons.mp hc with rfl | hc
  · exact Or.inr (isHexDigit_hexDigitUpper (by omega))
  · rw [List.mem_singleton.mp hc]
    exact Or.inr (isHexDigit_hexDigitUpper (by omega))

theorem isGenDelim_ascii {c : CodePoint} (h : isGenDelim c = true) :
    c.toNat < 128 ∧ c ≠ '%' ∧ isHexDigit c = false := by
  have all : ":/?#[]@".toText.all (fun c =>
      decide (c.toNat < 128 ∧ c ≠ '%' ∧ isHexDigit c = false)) = true := by decide
  exact of_decide_eq_true (List.all_eq_true.mp all c (List.contains_iff_mem.mp h))

theorem legal_of_mem_escapes {c d : CodePoint} (h : c ∈ escapes d) : isIllegal c = false := by
  refine legal_of_allows ?_
  rcases mem_escapes h with rfl | digit
  · decide
  · simp [Component.allows, Grammar.isUnreserved_of_isHexDigit digit]

/-! ## Texts -/

/-- The text with every character beyond ASCII written in escapes. -/
def encoded (s : Text) : Text := s.flatMap spelled

variable {c d : CodePoint} {s t : Text}

theorem encoded_cons (c : CodePoint) (s : Text) : encoded (c :: s) = spelled c ++ encoded s := rfl

theorem encoded_append (s t : Text) : encoded (s ++ t) = encoded s ++ encoded t :=
  List.flatMap_append

theorem encoded_cons_of_ascii (h : c.toNat < 128) (s : Text) :
    encoded (c :: s) = c :: encoded s := by
  rw [encoded_cons, spelled_of_ascii h, List.singleton_append]

/-- A character beyond ASCII leaves a percent sign in front. -/
theorem exists_encoded_cons (h : ¬c.toNat < 128) (s : Text) :
    ∃ t, encoded (c :: s) = char '%' :: t := by
  obtain ⟨t, ht⟩ := exists_escapes c
  rw [encoded_cons, spelled_of_not_ascii h, ht]
  exact ⟨t ++ encoded s, rfl⟩

theorem encoded_of_isAscii (h : s.isAscii = true) : encoded s = s := by
  induction s with
  | nil => rfl
  | cons c s ih =>
    have first := toNat_lt_of_isAscii h List.mem_cons_self
    rw [encoded_cons_of_ascii first, ih]
    simpa [isAscii, first] using h

theorem percent_mem_encoded (h : s.isAscii = false) : char '%' ∈ encoded s := by
  obtain ⟨c, hc, beyond⟩ := List.all_eq_false.mp h
  obtain ⟨t, ht⟩ := exists_escapes c
  refine List.mem_flatMap.mpr ⟨c, hc, ?_⟩
  rw [spelled_of_not_ascii (by simpa using beyond), ht]
  exact List.mem_cons_self

/-- **No delimiter is added or removed.** -/
theorem mem_encoded_iff (hd : isGenDelim d = true) : d ∈ encoded s ↔ d ∈ s := by
  obtain ⟨ascii, percent, digit⟩ := isGenDelim_ascii hd
  constructor
  · intro h
    obtain ⟨c, hc, h⟩ := List.mem_flatMap.mp h
    by_cases plain : c.toNat < 128
    · rw [spelled_of_ascii plain] at h
      exact List.mem_singleton.mp h ▸ hc
    · rw [spelled_of_not_ascii plain] at h
      rcases mem_escapes h with same | hex
      · exact absurd same percent
      · rw [digit] at hex
        cases hex
  · intro h
    refine List.mem_flatMap.mpr ⟨d, h, ?_⟩
    rw [spelled_of_ascii ascii]
    exact List.mem_singleton_self d

/-- A text begins with a delimiter when its encoding does. -/
theorem encoded_eq_cons_iff (hd : isGenDelim d = true) :
    encoded s = d :: t ↔ ∃ r, s = d :: r ∧ encoded r = t := by
  obtain ⟨ascii, percent, -⟩ := isGenDelim_ascii hd
  constructor
  · intro h
    rcases s with _ | ⟨c, s⟩
    · cases h
    · by_cases plain : c.toNat < 128
      · rw [encoded_cons_of_ascii plain] at h
        obtain ⟨rfl, rest⟩ := List.cons.inj h
        exact ⟨s, rfl, rest⟩
      · obtain ⟨u, hu⟩ := exists_encoded_cons plain s
        rw [hu] at h
        exact absurd (List.cons.inj h).1.symm percent
  · rintro ⟨r, rfl, rfl⟩
    exact encoded_cons_of_ascii ascii r

/-! ## Checks -/

theorem any_isIllegal_encoded (s : Text) : (encoded s).any isIllegal = s.any isIllegal := by
  induction s with
  | nil => rfl
  | cons c s ih =>
    rw [encoded_cons, List.any_append, List.any_cons, ih]
    by_cases plain : c.toNat < 128
    · rw [spelled_of_ascii plain, List.any_cons, List.any_nil, Bool.or_false]
    · have escaped : (escapes c).any isIllegal = false :=
        List.any_eq_false.mpr fun d hd => by rw [legal_of_mem_escapes hd]; exact Bool.false_ne_true
      have beyond : isIllegal c = false :=
        Bool.eq_false_iff.mpr fun illegal => plain (isIllegal_ascii illegal).1
      rw [spelled_of_not_ascii plain, escaped, beyond]

theorem isHexDigit_of_not_ascii (h : ¬c.toNat < 128) : isHexDigit c = false :=
  Bool.eq_false_iff.mpr fun digit =>
    h (toNat_lt_of_isUnreserved (Grammar.isUnreserved_of_isHexDigit digit))

theorem escapesFit_percent_of_not_digit (h : isHexDigit c = false) (s : Text) :
    escapesFit (char '%' :: c :: s) = false := by
  cases s with
  | nil => rfl
  | cons d s => rw [escapesFit_percent, h, Bool.false_and, Bool.false_and]

/-- No escape holds a character beyond ASCII, nor the escapes of one. -/
theorem escapesFit_percent_encoded (h : ¬c.toNat < 128) (s : Text) :
    escapesFit (char '%' :: encoded (c :: s)) = false := by
  obtain ⟨t, ht⟩ := exists_encoded_cons h s
  rw [ht]
  exact escapesFit_percent_of_not_digit (by decide) t

/-- **Encoding completes no escape and breaks none.** -/
theorem escapesFit_encoded (s : Text) : escapesFit (encoded s) = escapesFit s := by
  have percent (s : Text) : encoded (char '%' :: s) = char '%' :: encoded s :=
    encoded_cons_of_ascii (by decide) s
  fun_induction escapesFit s with
  | case1 => rfl
  | case2 a b s ih =>
    rw [percent]
    by_cases first : a.toNat < 128
    · rw [encoded_cons_of_ascii first]
      by_cases second : b.toNat < 128
      · rw [encoded_cons_of_ascii second, escapesFit_percent, ih]
      · obtain ⟨t, ht⟩ := exists_encoded_cons second s
        rw [ht, escapesFit_percent, isHexDigit_of_not_ascii second]
        have notDigit : isHexDigit '%' = false := by decide
        rw [notDigit, Bool.and_false, Bool.false_and, Bool.false_and]
    · rw [escapesFit_percent_encoded first, isHexDigit_of_not_ascii first, Bool.false_and,
        Bool.false_and]
  | case3 c s short ih =>
    by_cases hc : c = '%'
    · -- too little is left for an escape
      subst hc
      rw [percent, bne_self_eq_false, Bool.false_and]
      rcases s with _ | ⟨a, _ | ⟨b, s⟩⟩
      · rfl
      · by_cases plain : a.toNat < 128
        · rw [encoded_cons_of_ascii plain]
          rfl
        · exact escapesFit_percent_encoded plain []
      · exact absurd rfl (short a b s rfl)
    · rw [bne_iff_ne.mpr hc, Bool.true_and, ← ih]
      by_cases plain : c.toNat < 128
      · rw [encoded_cons_of_ascii plain, escapesFit_cons hc]
      · rw [encoded_cons, spelled_of_not_ascii plain, escapesFit_escapes_append]

/-! ## Cuts -/

/-- A cut at a delimiter stays where it is. -/
theorem cutFirst_encoded (hd : isGenDelim d = true) (s : Text) :
    cutFirst d (encoded s) = (encoded (cutFirst d s).1, (cutFirst d s).2.map encoded) := by
  rcases cut : cutFirst d s with ⟨before, after⟩
  obtain ⟨rfl, fresh⟩ := eq_of_cutFirst cut
  have same : encoded (after.elim [] (d :: ·)) = (after.map encoded).elim [] (d :: ·) := by
    cases after with
    | none => rfl
    | some after => exact encoded_cons_of_ascii (isGenDelim_ascii hd).1 after
  rw [encoded_append, same]
  exact cutFirst_append_elim (fun mem => fresh ((mem_encoded_iff hd).mp mem)) _

theorem isAscii_of_isScheme (h : isScheme s = true) : s.isAscii = true := by
  refine List.all_eq_true.mpr fun c hc => decide_eq_true ?_
  have schemeChar := List.all_eq_true.mp (all_isSchemeChar h) c hc
  exact toNat_lt_of_allows (Pieces.allows_of_isSchemeChar schemeChar)

theorem isScheme_encoded (s : Text) : isScheme (encoded s) = isScheme s := by
  cases ascii : s.isAscii with
  | true => rw [encoded_of_isAscii ascii]
  | false =>
    -- Neither text is a scheme: one has a character beyond ASCII, the other a percent sign.
    have beyond : isScheme s = false := Bool.eq_false_iff.mpr fun valid =>
      Bool.eq_false_iff.mp ascii (isAscii_of_isScheme valid)
    rw [beyond, Bool.eq_false_iff]
    intro valid
    exact not_mem_of_all (all_isSchemeChar valid) (by decide) (percent_mem_encoded ascii)

theorem cutScheme_encoded (s : Text) :
    cutScheme (encoded s) = ((cutScheme s).1, encoded (cutScheme s).2) := by
  rw [cutScheme, cutScheme, cutFirst_encoded (by decide)]
  rcases cutFirst ':' s with ⟨scheme, _ | rest⟩
  · rfl
  · simp only [Option.map_some, isScheme_encoded]
    cases valid : isScheme scheme with
    | true => simp only [if_true, encoded_of_isAscii (isAscii_of_isScheme valid)]
    | false => rfl

theorem beginsAuthority_encoded (s : Text) : beginsAuthority (encoded s) = beginsAuthority s := by
  rw [Bool.eq_iff_iff, beginsAuthority_iff, beginsAuthority_iff]
  constructor
  · rintro ⟨t, h⟩
    obtain ⟨r, rfl, rest⟩ := (encoded_eq_cons_iff (by decide)).mp h
    obtain ⟨r', rfl, -⟩ := (encoded_eq_cons_iff (by decide)).mp rest
    exact ⟨r', rfl⟩
  · rintro ⟨t, rfl⟩
    rw [encoded_cons_of_ascii (by decide), encoded_cons_of_ascii (by decide)]
    exact ⟨_, rfl⟩

theorem cutAuthority_encoded (h : (cutAuthority s).1.isAscii = true) :
    cutAuthority (encoded s) = ((cutAuthority s).1, encoded (cutAuthority s).2) := by
  cases begins : beginsAuthority s with
  | false =>
    rw [cutAuthority_of_not_begins begins,
      cutAuthority_of_not_begins ((beginsAuthority_encoded s).trans begins)]
  | true =>
    obtain ⟨t, rfl⟩ := beginsAuthority_iff.mp begins
    have whole : encoded t = t.takeWhile (!endsAuthority ·) ++
        encoded (t.dropWhile (!endsAuthority ·)) := by
      conv_lhs => rw [← List.takeWhile_append_dropWhile (p := (!endsAuthority ·)) (l := t)]
      rw [encoded_append]
      exact congrArg (· ++ _) (encoded_of_isAscii h)
    rw [encoded_cons_of_ascii (by decide), encoded_cons_of_ascii (by decide), whole]
    refine cutAuthority_append List.all_takeWhile fun c hc => ?_
    have stops := List.head?_dropWhile_not (!endsAuthority ·) t
    generalize t.dropWhile (!endsAuthority ·) = rest at stops hc
    rcases rest with _ | ⟨d, rest⟩
    · cases hc
    · have ends : endsAuthority d = true := by simpa using stops
      rw [encoded_cons_of_ascii (endsAuthority_ascii ends).1] at hc
      exact Option.some.inj hc ▸ ends

/-! ## Splitting -/

/-- The authority of a text, empty if there is none. -/
def authorityPart (s : Text) : Text := (cutAuthority (cutScheme s).2).1

/-- The parts with all that follows the authority encoded. -/
def Parts.encoded (p : Parts) : Parts where
  scheme := p.scheme
  authority := p.authority
  path := Uri.encoded p.path
  query := Uri.encoded p.query
  fragment := Uri.encoded p.fragment

theorem encoded_getD (o : Option Text) : (o.map encoded).getD [] = encoded (o.getD []) := by
  cases o <;> rfl

/-- **Splitting finds the same parts.** -/
theorem split_encoded (legal : s.any isIllegal = false) (h : (authorityPart s).isAscii = true) :
    Parts.split (encoded s) = (Parts.split s).map Parts.encoded := by
  have legal' := (any_isIllegal_encoded s).trans legal
  rw [Parts.split, Parts.split, cleaned_eq_self legal, cleaned_eq_self legal', cutScheme_encoded]
  simp only [cutAuthority_encoded h, cutFirst_encoded (d := '#') (by decide),
    cutFirst_encoded (d := '?') (by decide), encoded_getD]
  generalize (cutAuthority (cutScheme s).2).1 = authority
  cases Authority.checkBrackets authority with
  | error e => rfl
  | ok _ =>
    cases Authority.checkDisguise authority with
    | error e => rfl
    | ok _ => rfl

theorem hasQuery_encoded (s : Text) : Url.hasQuery (encoded s) = Url.hasQuery s := by
  rw [Url.hasQuery, Url.hasQuery, cutFirst_encoded (by decide), Bool.eq_iff_iff,
    List.contains_iff_mem, List.contains_iff_mem]
  exact mem_encoded_iff (by decide)

theorem isAscii_encoded (s : Text) : (encoded s).isAscii = true := by
  refine List.all_eq_true.mpr fun d hd => decide_eq_true ?_
  obtain ⟨c, -, hd⟩ := List.mem_flatMap.mp hd
  by_cases plain : c.toNat < 128
  · rw [spelled_of_ascii plain] at hd
    exact List.mem_singleton.mp hd ▸ plain
  · rw [spelled_of_not_ascii plain] at hd
    rcases mem_escapes hd with rfl | digit
    · decide
    · exact toNat_lt_of_isUnreserved (Grammar.isUnreserved_of_isHexDigit digit)

/-- Of the characters that a URL may have, quoting keeps those of ASCII. -/
theorem isKept_iff (legal : isIllegal c = false) : isKept c = true ↔ c.toNat < 128 := by
  refine ⟨fun kept => ?_, fun small => legal_of_ascii small legal⟩
  simp only [isKept, Bool.or_eq_true, decide_eq_true_eq] at kept
  rcases kept with ((kept | kept) | kept) | rfl
  · exact toNat_lt_of_isUnreserved kept
  · exact toNat_lt_of_isSubDelim kept
  · exact (isGenDelim_ascii kept).1
  · decide

theorem encoded_eq_quote (legal : s.any isIllegal = false) : encoded s = quote s := by
  refine List.flatMap_congr fun c hc => ?_
  have kept := isKept_iff (Bool.eq_false_iff.mpr (List.any_eq_false.mp legal c hc))
  simp only [spelled, kept]

/-- Encoding anticipates the ASCII form. -/
theorem asciiForm_encoded (legal : s.any isIllegal = false) :
    asciiForm (encoded s) = asciiForm s := by
  rw [asciiForm_of_isAscii (isAscii_encoded s)]
  cases ascii : s.isAscii with
  | true => rw [asciiForm_of_isAscii ascii, encoded_of_isAscii ascii]
  | false => rw [asciiForm, ascii, encoded_eq_quote legal]; rfl

theorem any_of_split {p : CodePoint → Bool} {parts : Parts} (legal : s.any isIllegal = false)
    (none : s.any p = false) (split : Parts.split s = .ok parts) :
    parts.path.any p = false ∧ parts.query.any p = false ∧ parts.fragment.any p = false := by
  obtain ⟨p, delimited, rfl⟩ := Pieces.exists_pieces s
  obtain ⟨rfl, -⟩ := delimited.eq_of_split legal split
  obtain ⟨-, path, query, fragment⟩ := Pieces.any_of_text none
  exact ⟨path, any_getD query, any_getD fragment⟩

end Uri

/-! ## Parsing -/

namespace Url

variable {encode : HostEncoding} {s : Text}

/-- Encoding anticipates the ASCII form of a component. -/
theorem asciiComponent_encoded (legal : s.any isIllegal = false)
    (plain : s.any CodePoint.isSurrogate = false) :
    asciiComponent (encoded s) = asciiComponent s := by
  have ascii : (encoded s).any CodePoint.isSurrogate = false :=
    any_isSurrogate_of_isAscii (isAscii_encoded s)
  rw [asciiComponent_eq_ok.mpr ⟨plain, rfl⟩, ← asciiForm_encoded legal]
  exact asciiComponent_eq_ok.mpr ⟨ascii, rfl⟩

theorem checkParts_encoded {parts : Parts}
    (legal : parts.path.any isIllegal = false ∧ parts.query.any isIllegal = false ∧
      parts.fragment.any isIllegal = false)
    (plain : parts.path.any CodePoint.isSurrogate = false ∧
      parts.query.any CodePoint.isSurrogate = false ∧
      parts.fragment.any CodePoint.isSurrogate = false) :
    checkParts (encoded s) parts.encoded = checkParts s parts := by
  have query : (if hasQuery s then some (encoded parts.query) else none).mapM asciiComponent =
      (if hasQuery s then some parts.query else none).mapM asciiComponent := by
    cases hasQuery s with
    | true => simp only [if_true, Option.mapM_some, asciiComponent_encoded legal.2.1 plain.2.1]
    | false => rfl
  simp only [checkParts, Parts.encoded, hasQuery_encoded, query,
    asciiComponent_encoded legal.1 plain.1, asciiComponent_encoded legal.2.2 plain.2.2,
    asciiForm_encoded legal.1, asciiForm_encoded legal.2.1, asciiForm_encoded legal.2.2]

theorem ofParts_encoded {parts : Parts} {port : Option Nat} {host : Option Text}
    (legal : parts.path.any isIllegal = false ∧ parts.query.any isIllegal = false ∧
      parts.fragment.any isIllegal = false) :
    ofParts (encoded s) parts.encoded port host = ofParts s parts port host := by
  rw [ofParts, hasQuery_encoded]
  simp only [Parts.encoded, asciiForm_encoded legal.1, asciiForm_encoded legal.2.1]
  rfl

/-- **Escaping before parsing makes no difference** to a text of characters where the authority is
ASCII. -/
theorem parse_encoded (plain : s.any CodePoint.isSurrogate = false)
    (h : (authorityPart s).isAscii = true) :
    parseWith encode (encoded s) = parseWith encode s := by
  cases legal : s.any isIllegal with
  | true =>
    rw [parseWith_of_illegal legal, parseWith_of_illegal ((any_isIllegal_encoded s).trans legal)]
  | false =>
    have legal' := (any_isIllegal_encoded s).trans legal
    cases fits : escapesFit s with
    | false =>
      have fits' := (escapesFit_encoded s).trans fits
      rw [parseWith_of_malformed legal fits, parseWith_of_malformed legal' fits']
    | true =>
      have fits' := (escapesFit_encoded s).trans fits
      have split' := split_encoded legal h
      cases split : Parts.split s with
      | error e =>
        rw [split] at split'
        rw [parseWith_of_unsplittable legal fits split,
          parseWith_of_unsplittable legal' fits' split']
      | ok parts =>
        rw [split] at split'
        rw [parseWith_of_split legal fits split, parseWith_of_split legal' fits' split']
        have forms := any_of_split legal legal split
        have plain := any_of_split legal plain split
        simp only [checkParts_encoded forms plain, ofParts_encoded forms]
        rfl

/-- Characters beyond ASCII in the path, the query and the fragment, next to an escape and to
delimiters. -/
theorem parse_encoded_accents :
    let s : Text := "hTTp://u@h:80/\u00E9%41?\u20AC?#\u00DF".toText
    let u : Url := {
      scheme := some "http".toText
      userInfo := some "u".toText
      host := some "h".toText
      port := some 80
      path := some "/%C3%A9%41".toText
      query := some "%E2%82%AC?".toText }
    (s.any CodePoint.isSurrogate = false ∧ (authorityPart s).isAscii = true) ∧
      parseWith .asciiOnly s = .ok u ∧
      parseWith .asciiOnly (encoded s) = .ok u ∧
      encoded s = "hTTp://u@h:80/%C3%A9%41?%E2%82%AC?#%C3%9F".toText := by
  intro s u
  have plain : s.any CodePoint.isSurrogate = false := by decide +kernel
  have ascii : (authorityPart s).isAscii = true := by decide +kernel
  have parsed : parseWith .asciiOnly s = .ok u := toOption_eq_some.mp (by decide +kernel)
  exact ⟨⟨plain, ascii⟩, parsed, (parse_encoded plain ascii).trans parsed, by decide +kernel⟩

end Url

end Dialer
