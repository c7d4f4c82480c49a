import Dialer.Proofs.Text.Cut
import Dialer.Proofs.Uri.Characters
import Dialer.Proofs.Uri.Parsing

/-!
# Pieces between delimiters

A text falls into pieces at the delimiters of its components, whatever the pieces hold, and
splitting finds exactly these.

* `Pieces.Delimited` says that the delimiters of a text stand between its pieces. Every text is made
  up of such pieces (`exists_pieces`).
* `split_text` gives the parts that splitting finds, and `hasQuery_text` whether there is a query.
* `escapesFit_text` and `legal_text` compare the checks on the whole text with those on the pieces.
-/

namespace Dialer.Uri

open Text

/-! ## Single cuts -/

theorem not_mem_of_all {p : CodePoint → Bool} {c : CodePoint} {s : Text} (h : s.all p = true)
    (hc : p c = false) : c ∉ s := fun mem =>
  Bool.eq_false_iff.mp hc (List.all_eq_true.mp h c mem)

theorem all_of_subset {p : CodePoint → Bool} {s t : Text} (h : s.all p = true) (subset : t ⊆ s) :
    t.all p = true :=
  List.all_eq_true.mpr fun c hc => List.all_eq_true.mp h c (subset hc)

theorem userInfo_subset (authority : Text) :
    ∀ t ∈ Authority.userInfo authority, t ⊆ authority := by
  intro t ht
  rcases last : cutLast '@' authority with ⟨userInfo, rest⟩
  obtain ⟨rfl, -⟩ := eq_of_cutLast last
  obtain rfl : userInfo = some t := by simpa [Authority.userInfo, last] using ht
  simp

theorem isIllegal_of_le {c : CodePoint} (h : c.toNat ≤ 0x20) : isIllegal c = true := by
  simp [isIllegal, h]

/-- Nothing is left out of a text of legal characters. -/
theorem cleaned_eq_self {s : Text} (h : s.any isIllegal = false) : cleaned s = s := by
  have printing : ∀ c ∈ s, ¬ c.toNat ≤ 0x20 := fun c hc small =>
    Bool.eq_false_iff.mp h (List.any_eq_true.mpr ⟨c, hc, isIllegal_of_le small⟩)
  have start : s.dropWhile (fun c => decide (c.toNat ≤ 0x20)) = s := by
    rcases s with _ | ⟨c, s⟩
    · rfl
    · rw [List.dropWhile_cons_of_neg]
      simpa using printing c List.mem_cons_self
  rw [cleaned, start, List.filter_eq_self]
  intro c hc
  have large := printing c hc
  simp only [Bool.and_eq_true, bne_iff_ne]
  refine ⟨⟨?_, ?_⟩, ?_⟩ <;> rintro rfl <;> exact large (by decide)

theorem all_isSchemeChar {s : Text} (h : isScheme s = true) : s.all isSchemeChar = true := by
  rcases s with _ | ⟨c, s⟩
  · rfl
  · rw [isScheme, Bool.and_eq_true] at h
    simp [isSchemeChar, CodePoint.isAlphanum, h.1, h.2]

theorem cutScheme_append {scheme : Text} (h : isScheme scheme = true) (rest : Text) :
    cutScheme (scheme ++ char ':' :: rest) = (scheme.map CodePoint.toLower, rest) := by
  rw [cutScheme, cutFirst_append (not_mem_of_all (all_isSchemeChar h) (by decide))]
  exact if_pos h

/-- A text begins with a scheme or is left as it is. -/
theorem cutScheme_cases (s : Text) :
    cutScheme s = ([], s) ∨
      ∃ scheme rest, isScheme scheme = true ∧ s = scheme ++ char ':' :: rest := by
  unfold cutScheme
  rcases cut : cutFirst ':' s with ⟨scheme, _ | rest⟩
  · exact Or.inl rfl
  · cases valid : isScheme scheme with
    | false => exact Or.inl (by simp [valid])
    | true =>
      obtain ⟨hs, -⟩ := eq_of_cutFirst cut
      exact Or.inr ⟨scheme, rest, valid, hs⟩

/-- No scheme begins with a slash. -/
theorem cutScheme_slash (s : Text) : cutScheme (char '/' :: s) = ([], char '/' :: s) := by
  rcases cutScheme_cases (char '/' :: s) with same | ⟨scheme, rest, valid, hs⟩
  · exact same
  · rcases scheme with _ | ⟨c, scheme⟩
    · cases valid
    · obtain rfl : '/' = c := (List.cons.inj hs).1
      rw [isScheme, Bool.and_eq_true] at valid
      exact absurd valid.1 (by decide)

theorem cutAuthority_of_not_begins {s : Text} (h : beginsAuthority s = false) :
    cutAuthority s = ([], s) := by
  unfold cutAuthority
  split
  · simp [beginsAuthority] at h
  · rfl

theorem cutAuthority_append {authority rest : Text}
    (h : authority.all (!endsAuthority ·) = true) (hr : ∀ c ∈ rest.head?, endsAuthority c = true) :
    cutAuthority (char '/' :: char '/' :: (authority ++ rest)) = (authority, rest) := by
  have stop : rest.takeWhile (!endsAuthority ·) = [] ∧
      rest.dropWhile (!endsAuthority ·) = rest := by
    rcases rest with _ | ⟨c, rest⟩
    · exact ⟨rfl, rfl⟩
    · have hc := hr c rfl
      simp [hc]
  rw [cutAuthority, List.takeWhile_append_of_pos (List.all_eq_true.mp h),
    List.dropWhile_append_of_pos (List.all_eq_true.mp h), stop.1, stop.2, List.append_nil]

theorem all_not_endsAuthority {s : Text} (slash : char '/' ∉ s) (query : char '?' ∉ s)
    (fragment : char '#' ∉ s) : s.all (!endsAuthority ·) = true := by
  refine List.all_eq_true.mpr fun c hc => ?_
  have hs : c ≠ '/' := fun e => slash (e ▸ hc)
  have hq : c ≠ '?' := fun e => query (e ▸ hc)
  have hf : c ≠ '#' := fun e => fragment (e ▸ hc)
  simp [endsAuthority, hs, hq, hf]

theorem beginsAuthority_cons_cons (c d : CodePoint) (s : Text) :
    beginsAuthority (c :: d :: s) = (decide (c = '/') && decide (d = '/')) := by
  by_cases hc : c = '/' <;> by_cases hd : d = '/' <;> simp [beginsAuthority, hc, hd]

theorem beginsAuthority_iff {s : Text} :
    beginsAuthority s = true ↔ ∃ t, s = char '/' :: char '/' :: t := by
  rcases s with _ | ⟨c, _ | ⟨d, t⟩⟩
  · simp [beginsAuthority]
  · simp [beginsAuthority]
  · simp [beginsAuthority_cons_cons]

theorem beginsAuthority_append {path rest : Text} (h : beginsAuthority path = false)
    (hr : ∀ c ∈ rest.head?, c ≠ '/') : beginsAuthority (path ++ rest) = false := by
  rcases path with _ | ⟨c, _ | ⟨d, path⟩⟩
  · rcases rest with _ | ⟨c, rest⟩
    · rfl
    · simp [beginsAuthority, hr c rfl]
  · rcases rest with _ | ⟨d, rest⟩
    · simp [beginsAuthority]
    · simp [beginsAuthority, hr d rfl]
  · rw [List.cons_append, List.cons_append, beginsAuthority_cons_cons,
      ← beginsAuthority_cons_cons c d path, h]

/-! ## Optional pieces -/

theorem mem_elim_cons {c d : CodePoint} {o : Option Text} (h : c ≠ d) :
    c ∈ (o.elim [] (d :: ·) : Text) ↔ ∃ t ∈ o, c ∈ t := by
  cases o <;> simp [h]

theorem any_getD {p : CodePoint → Bool} {o : Option Text} (h : ∀ t ∈ o, t.any p = false) :
    (o.getD []).any p = false := by
  cases o with
  | none => rfl
  | some t => exact h t rfl

theorem any_append_elim {p : CodePoint → Bool} {d : CodePoint} (hd : p d = false) (s : Text)
    (o : Option Text) : (s ++ o.elim [] (d :: ·)).any p = false ↔
      s.any p = false ∧ ∀ t ∈ o, t.any p = false := by
  cases o with
  | none => simp
  | some t => simp only [Option.elim_some, List.any_append, List.any_cons, hd, Bool.false_or,
      Bool.or_eq_false_iff, Option.mem_some_iff, forall_eq']

theorem any_elim_append {p : CodePoint → Bool} {d : CodePoint} (hd : p d = false) (o : Option Text)
    (s : Text) : (o.elim [] (· ++ [d]) ++ s).any p = false ↔
      (∀ t ∈ o, t.any p = false) ∧ s.any p = false := by
  cases o with
  | none => simp
  | some t => simp only [Option.elim_some, List.any_append, List.any_cons, List.any_nil, hd,
      Bool.or_false, Bool.or_eq_false_iff, Option.mem_some_iff, forall_eq']

/-! ## Disguises -/

theorem any_disguisesDelimiter {s : Text} (h : s.isAscii = true) :
    s.any Unicode.disguisesDelimiter = false :=
  List.any_eq_false.mpr fun c hc => by
    simp [Unicode.disguisesDelimiter_of_ascii (toNat_lt_of_isAscii h hc)]

theorem checkDisguise_of_plain {authority : Text}
    (h : authority.any Unicode.disguisesDelimiter = false) :
    Authority.checkDisguise authority = .ok () :=
  if_neg (Bool.eq_false_iff.mp h)

/-! ## Pieces -/

/-- The pieces of a text. A piece is none where its delimiter is missing. -/
structure Pieces where
  scheme : Option Text
  authority : Option Text
  path : Text
  query : Option Text
  fragment : Option Text

/-- How a path may begin, after an authority and without one. -/
def PathBegins {α : Type} : Option α → Text → Prop
  | some _, path => path = [] ∨ path.head? = some (char '/')
  | none, path => beginsAuthority path = false

namespace Pieces

/-- The authority and the path. -/
def hierText (p : Pieces) : Text :=
  p.authority.elim [] (fun a => char '/' :: char '/' :: a) ++ p.path

/-- The query and the fragment. -/
def endText (p : Pieces) : Text :=
  p.query.elim [] (char '?' :: ·) ++ p.fragment.elim [] (char '#' :: ·)

/-- The text that the pieces make up. -/
def text (p : Pieces) : Text :=
  p.scheme.elim [] (· ++ [char ':']) ++ (p.hierText ++ p.endText)

/-- No delimiter stands where it would part what follows the scheme otherwise. -/
structure Parted (p : Pieces) : Prop where
  authority : ∀ a ∈ p.authority, a.all (!endsAuthority ·) = true
  path : PathBegins p.authority p.path
  path_query : char '?' ∉ p.path
  path_fragment : char '#' ∉ p.path
  query_fragment : ∀ q ∈ p.query, char '#' ∉ q

/-- No delimiter stands where it would part the text otherwise, and no scheme is overlooked. -/
structure Delimited (p : Pieces) : Prop extends Parted p where
  scheme : ∀ s ∈ p.scheme, isScheme s = true
  unschemed : p.scheme = none → cutScheme p.text = ([], p.text)

/-- The pieces as splitting gives them. -/
def parts (p : Pieces) : Parts where
  scheme := p.scheme.elim [] (·.map CodePoint.toLower)
  authority := p.authority.getD []
  path := p.path
  query := p.query.getD []
  fragment := p.fragment.getD []

variable {p : Pieces}

theorem head?_endText {c : CodePoint} (h : c ∈ p.endText.head?) :
    endsAuthority c = true ∧ c ≠ '/' := by
  unfold endText at h
  cases hq : p.query with
  | some q =>
    obtain rfl : '?' = c := by simpa [hq] using h
    exact ⟨rfl, by decide⟩
  | none =>
    cases hf : p.fragment with
    | none => simp [hq, hf] at h
    | some f =>
      obtain rfl : '#' = c := by simpa [hq, hf] using h
      exact ⟨rfl, by decide⟩

/-! ## Splitting -/

theorem cutScheme_text (h : p.Delimited) :
    cutScheme p.text = (p.parts.scheme, p.hierText ++ p.endText) := by
  cases scheme : p.scheme with
  | none =>
    rw [h.unschemed scheme]
    simp [text, parts, scheme]
  | some s =>
    have whole : p.text = s ++ char ':' :: (p.hierText ++ p.endText) := by simp [text, scheme]
    rw [whole, cutScheme_append (h.scheme s scheme)]
    simp [parts, scheme]

theorem cutAuthority_hierText (h : p.Parted) :
    cutAuthority (p.hierText ++ p.endText) = (p.parts.authority, p.path ++ p.endText) := by
  have begins := h.path
  cases ha : p.authority with
  | none =>
    rw [ha] at begins
    have hier : p.hierText = p.path := by simp [hierText, ha]
    have none : p.parts.authority = [] := by simp [parts, ha]
    rw [hier, none]
    exact cutAuthority_of_not_begins
      (beginsAuthority_append begins fun c hc => (head?_endText hc).2)
  | some a =>
    rw [ha] at begins
    have hier : p.hierText ++ p.endText = char '/' :: char '/' :: (a ++ (p.path ++ p.endText)) := by
      simp [hierText, ha]
    have some : p.parts.authority = a := by simp [parts, ha]
    rw [hier, some]
    refine cutAuthority_append (h.authority a ha) fun c hc => ?_
    rcases begins with empty | slash
    · exact (head?_endText (by simpa [empty] using hc)).1
    · rw [List.head?_append, slash] at hc
      obtain rfl := Option.some.inj hc
      rfl

theorem hash_not_mem_before (h : p.Parted) :
    char '#' ∉ p.path ++ p.query.elim [] (char '?' :: ·) := by
  rw [List.mem_append, mem_elim_cons (by decide), not_or]
  exact ⟨h.path_fragment, fun ⟨q, hq, mem⟩ => h.query_fragment q hq mem⟩

/-- **Splitting finds the pieces**, if the authority passes its checks. -/
theorem Delimited.split_text (h : p.Delimited) (legal : p.text.any isIllegal = false) :
    Parts.split p.text = (do
      Authority.checkBrackets p.parts.authority
      Authority.checkDisguise p.parts.authority
      return p.parts) := by
  have fragment : cutFirst '#' (p.path ++ p.endText) =
      (p.path ++ p.query.elim [] (char '?' :: ·), p.fragment) := by
    rw [endText, ← List.append_assoc]
    exact cutFirst_append_elim (hash_not_mem_before h.toParted) p.fragment
  have query := cutFirst_append_elim h.path_query p.query
  rw [Parts.split, cleaned_eq_self legal]
  simp only [cutScheme_text h, cutAuthority_hierText h.toParted, fragment, query]
  rfl

theorem Delimited.eq_of_split {parts : Parts} (h : p.Delimited)
    (legal : p.text.any isIllegal = false) (split : Parts.split p.text = .ok parts) :
    parts = p.parts ∧ Authority.checkBrackets p.parts.authority = .ok () := by
  rw [h.split_text legal] at split
  obtain ⟨_, brackets, split⟩ := bind_eq_ok.mp split
  obtain ⟨_, -, split⟩ := bind_eq_ok.mp split
  exact ⟨(Except.ok.inj split).symm, brackets⟩

theorem parts_authority_subset : p.parts.authority ⊆ p.text := by
  intro c hc
  cases ha : p.authority with
  | none => simp [parts, ha] at hc
  | some a =>
    have inside : c ∈ a := by simpa [parts, ha] using hc
    simp [text, hierText, ha, inside]

theorem parts_authority_inside (h : p.Parted) :
    p.parts.authority.all (!endsAuthority ·) = true := by
  cases ha : p.authority with
  | none => simp [parts, ha]
  | some a => simpa [parts, ha] using h.authority a ha

/-- An authority of ASCII characters without brackets passes its checks. -/
theorem Delimited.split_text_of_isAscii (h : p.Delimited) (legal : p.text.any isIllegal = false)
    (ascii : p.text.isAscii = true) (opening : char '[' ∉ p.text) (closing : char ']' ∉ p.text) :
    Parts.split p.text = .ok p.parts := by
  have brackets : Authority.checkBrackets p.parts.authority = .ok () := by
    have first : p.parts.authority.contains '[' = false := by
      simpa using fun mem => opening (parts_authority_subset mem)
    have last : p.parts.authority.contains ']' = false := by
      simpa using fun mem => closing (parts_authority_subset mem)
    rw [Authority.checkBrackets, first, last]
  have plain := any_disguisesDelimiter (all_of_subset ascii parts_authority_subset)
  rw [h.split_text legal, brackets, checkDisguise_of_plain plain]
  rfl

/-- What ends an authority stands before the query in the path alone. -/
theorem not_mem_before {c : CodePoint} (h : p.Delimited) (ends : endsAuthority c = true)
    (scheme : isSchemeChar c = false) (colon : c ≠ ':') (slash : c ≠ '/') (path : c ∉ p.path) :
    c ∉ p.scheme.elim [] (· ++ [char ':']) ++ p.hierText := by
  have outside : c ∉ (p.scheme.elim [] (· ++ [char ':']) : Text) := by
    cases hs : p.scheme with
    | none => exact List.not_mem_nil
    | some s => simpa [colon] using not_mem_of_all (all_isSchemeChar (h.scheme s hs)) scheme
  rw [List.mem_append, not_or]
  refine ⟨outside, ?_⟩
  cases ha : p.authority with
  | none => simpa [hierText, ha] using path
  | some a =>
    have inside := not_mem_of_all (h.authority a ha) (c := c) (by simp [ends])
    simp [hierText, ha, slash, inside, path]

/-- A question mark before any fragment begins the query. -/
theorem Delimited.hasQuery_text (h : p.Delimited) : Url.hasQuery p.text = p.query.isSome := by
  have mark := not_mem_before h (c := '?') rfl (by decide) (by decide) (by decide) h.path_query
  have hash := not_mem_before h (c := '#') rfl (by decide) (by decide) (by decide) h.path_fragment
  have before : char '#' ∉ p.scheme.elim [] (· ++ [char ':']) ++ p.hierText ++
      p.query.elim [] (char '?' :: ·) := by
    rw [List.mem_append, mem_elim_cons (by decide), not_or]
    exact ⟨hash, fun ⟨q, hq, mem⟩ => h.query_fragment q hq mem⟩
  have whole : p.text = p.scheme.elim [] (· ++ [char ':']) ++ p.hierText ++
      p.query.elim [] (char '?' :: ·) ++ p.fragment.elim [] (char '#' :: ·) := by
    simp only [text, endText, List.append_assoc]
  rw [Url.hasQuery, whole, cutFirst_append_elim before]
  cases hq : p.query with
  | none => simpa using mark
  | some q => simp

/-! ## Every text has its pieces -/

theorem exists_hier {hier : Text} (query : char '?' ∉ hier) (fragment : char '#' ∉ hier) :
    ∃ (authority : Option Text) (path : Text),
      (∀ a ∈ authority, a.all (!endsAuthority ·) = true) ∧ PathBegins authority path ∧
      authority.elim [] (fun a => char '/' :: char '/' :: a) ++ path = hier := by
  cases begins : beginsAuthority hier with
  | false => exact ⟨none, hier, by simp, begins, rfl⟩
  | true =>
    obtain ⟨t, rfl⟩ := beginsAuthority_iff.mp begins
    rcases cut : cutFirst '/' t with ⟨authority, rest⟩
    obtain ⟨ht, slash⟩ := eq_of_cutFirst cut
    simp only [List.mem_cons, not_or, ht] at query fragment
    have inside := all_not_endsAuthority slash
      (fun mem => query.2.2 (List.mem_append_left _ mem))
      (fun mem => fragment.2.2 (List.mem_append_left _ mem))
    refine ⟨some authority, rest.elim [] (char '/' :: ·), by simpa using inside, ?_, by simp [ht]⟩
    cases rest <;> simp [PathBegins]

/-- What may follow a scheme has its pieces. -/
theorem exists_parted (rest : Text) :
    ∃ p : Pieces, p.Parted ∧ p.scheme = none ∧ p.text = rest := by
  rcases cut : cutFirst '#' rest with ⟨before, fragment⟩
  rcases cut' : cutFirst '?' before with ⟨hier, query⟩
  obtain ⟨hr, hash⟩ := eq_of_cutFirst cut
  obtain ⟨hb, mark⟩ := eq_of_cutFirst cut'
  have inHier : char '#' ∉ hier := fun mem => hash (hb ▸ List.mem_append_left _ mem)
  obtain ⟨authority, path, ha, hp, rfl⟩ := exists_hier mark inHier
  refine ⟨⟨none, authority, path, query, fragment⟩, ⟨ha, hp, ?_, ?_, ?_⟩, rfl, ?_⟩
  · exact fun mem => mark (List.mem_append_right _ mem)
  · exact fun mem => inHier (List.mem_append_right _ mem)
  · rintro q rfl mem
    exact hash (hb ▸ List.mem_append_right _ (List.mem_cons_of_mem _ mem))
  · rw [hr, hb]
    simp [text, hierText, endText]

/-- Pieces after a scheme. -/
theorem Parted.withScheme (h : p.Parted) {scheme : Text} (valid : isScheme scheme = true) :
    ({ p with scheme := some scheme } : Pieces).Delimited where
  authority := h.authority
  path := h.path
  path_query := h.path_query
  path_fragment := h.path_fragment
  query_fragment := h.query_fragment
  scheme s hs := by rwa [← Option.some.inj hs]
  unschemed := nofun

theorem text_withScheme (h : p.scheme = none) (scheme : Text) :
    ({ p with scheme := some scheme } : Pieces).text = scheme ++ char ':' :: p.text := by
  have none : p.text = p.hierText ++ p.endText := by simp [text, h]
  rw [none]
  simp [text, hierText, endText]

/-- **Every text has its pieces.** -/
theorem exists_pieces (s : Text) : ∃ p : Pieces, p.Delimited ∧ p.text = s := by
  rcases cutScheme_cases s with same | ⟨scheme, rest, valid, rfl⟩
  · obtain ⟨p, parted, none, rfl⟩ := exists_parted s
    refine ⟨p, { parted with scheme := ?_, unschemed := fun _ => same }, rfl⟩
    intro s hs
    rw [none] at hs
    cases hs
  · obtain ⟨p, parted, none, rfl⟩ := exists_parted rest
    exact ⟨_, parted.withScheme valid, text_withScheme none scheme⟩

/-! ## Checks -/

theorem escapesFit_hierText (h : p.Parted) :
    escapesFit p.hierText = true ↔
      (∀ a ∈ p.authority, escapesFit a = true) ∧ escapesFit p.path = true := by
  have begins := h.path
  cases ha : p.authority with
  | none => simp [hierText, ha]
  | some a =>
    rw [ha] at begins
    have after : escapesFit (a ++ p.path) = (escapesFit a && escapesFit p.path) := by
      rcases begins with empty | slash
      · simp [empty, escapesFit]
      · obtain ⟨t, ht⟩ := List.head?_eq_some_iff.mp slash
        rw [ht, escapesFit_append_cons (by decide) (by decide), escapesFit_cons (by decide)]
    have whole : p.hierText = char '/' :: char '/' :: (a ++ p.path) := by simp [hierText, ha]
    rw [whole, escapesFit_cons (by decide), escapesFit_cons (by decide), after]
    simp

/-- Escapes lie within the pieces. -/
theorem Delimited.escapesFit_text (h : p.Delimited) :
    escapesFit p.text = true ↔ ((∀ a ∈ p.authority, escapesFit a = true) ∧
      escapesFit p.path = true) ∧ (∀ q ∈ p.query, escapesFit q = true) ∧
      ∀ f ∈ p.fragment, escapesFit f = true := by
  have scheme : ∀ s ∈ p.scheme, escapesFit s = true := fun s hs =>
    escapesFit_of_percent_not_mem (not_mem_of_all (all_isSchemeChar (h.scheme s hs)) (by decide))
  rw [text, endText, ← List.append_assoc p.hierText, escapesFit_elim_append (by decide) (by decide),
    escapesFit_append_elim (by decide) (by decide), escapesFit_append_elim (by decide) (by decide),
    escapesFit_hierText h.toParted, and_assoc, and_iff_right scheme]

theorem allows_of_isSchemeChar {c : CodePoint} (h : isSchemeChar c = true) :
    Component.query.allows c = true := by
  simp only [isSchemeChar, Bool.or_eq_true, decide_eq_true_eq] at h
  rcases h with ((h | rfl) | rfl) | rfl
  · simp [Component.allows, isUnreserved, h]
  all_goals decide

theorem Delimited.legal_text (h : p.Delimited)
    (authority : ∀ a ∈ p.authority, a.any isIllegal = false)
    (path : p.path.any isIllegal = false) (query : ∀ q ∈ p.query, q.any isIllegal = false)
    (fragment : ∀ f ∈ p.fragment, f.any isIllegal = false) : p.text.any isIllegal = false := by
  have scheme : ∀ s ∈ p.scheme, s.any isIllegal = false := fun s hs =>
    legal_of_all (all_isSchemeChar (h.scheme s hs)) fun _ => allows_of_isSchemeChar
  have hier : p.hierText.any isIllegal = false := by
    cases ha : p.authority with
    | none => simpa only [hierText, ha, Option.elim_none, List.nil_append] using path
    | some a =>
      have slash : isIllegal '/' = false := by decide
      simp only [hierText, ha, Option.elim_some, List.any_append, List.any_cons, slash,
        authority a ha, path, Bool.or_false]
  rw [text, endText, ← List.append_assoc p.hierText, any_elim_append (by decide),
    any_append_elim (by decide), any_append_elim (by decide)]
  exact ⟨scheme, ⟨hier, query⟩, fragment⟩

/-- What no character of a text is, none of its pieces is. -/
theorem any_of_text {q : CodePoint → Bool} (none : p.text.any q = false) :
    (∀ a ∈ p.authority, a.any q = false) ∧ p.path.any q = false ∧
      (∀ t ∈ p.query, t.any q = false) ∧ ∀ f ∈ p.fragment, f.any q = false := by
  have piece {t : Text} (subset : t ⊆ p.text) : t.any q = false :=
    List.any_eq_false.mpr fun c hc => List.any_eq_false.mp none c (subset hc)
  refine ⟨fun a ha => piece fun c hc => ?_, piece fun c hc => ?_, fun q hq => piece fun c hc => ?_,
    fun f hf => piece fun c hc => ?_⟩
  · simp [text, hierText, Option.mem_def.mp ha, hc]
  · simp [text, hierText, hc]
  · simp [text, endText, Option.mem_def.mp hq, hc]
  · simp [text, endText, Option.mem_def.mp hf, hc]

end Pieces

end Dialer.Uri
