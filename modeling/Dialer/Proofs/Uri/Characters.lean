import Dialer.Proofs.Text.Ascii
import Dialer.Proofs.Uri.Grammar
import Dialer.Uri.Chars
import Dialer.Uri.Parts

/-!
# Rules by their characters

Most rules of the grammar ask of a text no more than that its characters belong to a class and
that two hexadecimal digits follow every `%`.

* `mem_escaped_iff` says so of any class that has the hexadecimal digits.
* `escapesFit_append_cons` says that no escape straddles a delimiter.
* `mem_pathAbempty_iff` and `mem_path_iff` say where the slashes of a path may stand.
-/

namespace Dialer.Uri

open Text

/-! ## ASCII characters -/

/-- An ASCII character that a URI may contain is unreserved, a delimiter or the percent sign. -/
theorem legal_of_ascii {c : CodePoint} (hc : c.toNat < 128) (legal : isIllegal c = false) :
    (isUnreserved c || isSubDelim c || isGenDelim c || c = '%') = true := by
  have all := of_ascii
    (p := fun c => isIllegal c || (isUnreserved c || isSubDelim c || isGenDelim c || c = '%'))
    (by decide +kernel) hc
  simpa only [legal, Bool.false_or] using all

theorem toNat_lt_of_isUnreserved {c : CodePoint} (h : isUnreserved c = true) : c.toNat < 128 := by
  simp only [isUnreserved, Bool.or_eq_true, decide_eq_true_eq, CodePoint.isAlphanum,
    CodePoint.isAlpha, CodePoint.isUpper, CodePoint.isLower, CodePoint.isDigit,
    Bool.and_eq_true] at h
  change ((((((65 ≤ c.toNat ∧ c.toNat ≤ 90) ∨ (97 ≤ c.toNat ∧ c.toNat ≤ 122)) ∨
    (48 ≤ c.toNat ∧ c.toNat ≤ 57)) ∨ c = '-') ∨ c = '.') ∨ c = '_') ∨ c = '~' at h
  rcases h with ((((h | h) | rfl) | rfl) | rfl) | rfl
  · omega
  · omega
  all_goals decide

theorem toNat_lt_of_isSubDelim {c : CodePoint} (h : isSubDelim c = true) : c.toNat < 128 := by
  have all : "!$&'()*+,;=".toText.all (fun d => d.toNat < 128) = true := by decide
  exact of_decide_eq_true (List.all_eq_true.mp all c (List.contains_iff_mem.mp h))

/-- The characters of a query are ASCII. Every component has some of these. -/
theorem toNat_lt_of_allows {c : CodePoint} (h : Component.query.allows c = true) :
    c.toNat < 128 := by
  simp only [Component.allows, Bool.or_eq_true, decide_eq_true_eq] at h
  rcases h with (((((h | h) | rfl) | rfl) | rfl) | rfl) | rfl
  · exact toNat_lt_of_isUnreserved h
  · exact toNat_lt_of_isSubDelim h
  all_goals decide

theorem legal_of_allows {c : CodePoint} (h : Component.query.allows c = true) :
    isIllegal c = false := by
  have all := of_ascii (p := fun c => !Component.query.allows c || !isIllegal c)
    (by decide +kernel) (toNat_lt_of_allows h)
  simpa [h] using all

theorem legal_of_all {p : CodePoint → Bool} {s : Text} (h : s.all p = true)
    (hp : ∀ c, p c = true → Component.query.allows c = true) : s.any isIllegal = false := by
  rw [List.any_eq_false]
  intro c hc
  rw [legal_of_allows (hp c (List.all_eq_true.mp h c hc))]
  exact Bool.false_ne_true

/-! ## Escapes -/

theorem escapesFit_cons {c : CodePoint} (h : c ≠ '%') (s : Text) :
    escapesFit (c :: s) = escapesFit s := by
  have pass : (c != '%') = true := bne_iff_ne.mpr h
  rw [escapesFit.eq_3 _ _ (by rintro a b t rfl; exact absurd rfl h), pass, Bool.true_and]

theorem escapesFit_percent (a b : CodePoint) (s : Text) :
    escapesFit (char '%' :: a :: b :: s) = (isHexDigit a && isHexDigit b && escapesFit s) := rfl

/-- No escape straddles a delimiter. -/
theorem escapesFit_append_cons {d : CodePoint} (hd : isHexDigit d = false) (hp : d ≠ '%')
    (s t : Text) : escapesFit (s ++ d :: t) = (escapesFit s && escapesFit t) := by
  fun_induction escapesFit s with
  | case1 => exact escapesFit_cons hp t
  | case2 a b s ih =>
    simp only [List.cons_append, escapesFit_percent, ih, Bool.and_assoc]
  | case3 c s short ih =>
    by_cases hc : c = '%'
    · -- too little is left for an escape, and the delimiter is no digit of one
      subst hc
      rcases s with _ | ⟨a, _ | ⟨b, s⟩⟩
      · cases t <;> simp [escapesFit, hd]
      · simp [escapesFit, hd]
      · exact absurd rfl (short a b s rfl)
    · rw [List.cons_append, escapesFit_cons hc, ih, bne_iff_ne.mpr hc, Bool.true_and]

theorem escapesFit_append_elim {d : CodePoint} (hd : isHexDigit d = false) (hp : d ≠ '%') (s : Text)
    (o : Option Text) : escapesFit (s ++ o.elim [] (d :: ·)) = true ↔
      escapesFit s = true ∧ ∀ t ∈ o, escapesFit t = true := by
  cases o with
  | none => simp
  | some t => simp [escapesFit_append_cons hd hp]

theorem escapesFit_elim_append {d : CodePoint} (hd : isHexDigit d = false) (hp : d ≠ '%')
    (o : Option Text) (s : Text) : escapesFit (o.elim [] (· ++ [d]) ++ s) = true ↔
      (∀ t ∈ o, escapesFit t = true) ∧ escapesFit s = true := by
  cases o with
  | none => simp
  | some t => simp [escapesFit_append_cons hd hp]

theorem escapesFit_of_percent_not_mem {s : Text} (h : char '%' ∉ s) : escapesFit s = true := by
  induction s with
  | nil => rfl
  | cons c s ih =>
    rw [escapesFit_cons (List.ne_of_not_mem_cons h).symm]
    exact ih (List.not_mem_of_not_mem_cons h)

namespace Grammar

open scoped Computability

/-! ## Classes -/

theorem one_add_one (p q : CodePoint → Bool) : one p + one q = one fun c => p c || q c := by
  ext s
  simp only [Language.mem_add, mem_one, Bool.or_eq_true]
  constructor
  · rintro (⟨c, hc, rfl⟩ | ⟨c, hc, rfl⟩)
    · exact ⟨c, Or.inl hc, rfl⟩
    · exact ⟨c, Or.inr hc, rfl⟩
  · rintro ⟨c, hc | hc, rfl⟩
    · exact Or.inl ⟨c, hc, rfl⟩
    · exact Or.inr ⟨c, hc, rfl⟩

theorem one_congr {p q : CodePoint → Bool} (h : ∀ c, p c = q c) : one p = one q :=
  congrArg one (funext h)

theorem digit_eq : digit = one CodePoint.isDigit := by
  refine one_congr fun c => ?_
  rw [Bool.eq_iff_iff]
  simp [CodePoint.isDigit, CodePoint.le_def]

theorem alpha_eq : alpha = one CodePoint.isAlpha := by
  rw [alpha, range, range, one_add_one]
  refine one_congr fun c => ?_
  rw [Bool.eq_iff_iff]
  simp [CodePoint.isAlpha, CodePoint.isUpper, CodePoint.isLower, CodePoint.le_def]

theorem hexDigit_eq : hexDigit = one isHexDigit := by
  rw [hexDigit, digit_eq, range, range, one_add_one, one_add_one]
  refine one_congr fun c => ?_
  rw [isHexDigit, Bool.or_assoc, Bool.or_assoc, Bool.or_comm ('A' ≤ c && c ≤ 'F' : Bool)]

theorem unreserved_eq : unreserved = one isUnreserved := by
  rw [unreserved, alpha_eq, digit_eq, oneOf, one_add_one, one_add_one]
  refine one_congr fun c => ?_
  simp [isUnreserved, CodePoint.isAlphanum, String.toText, Bool.or_assoc]

theorem subDelims_eq : subDelims = one isSubDelim := rfl

theorem mem_pctEncoded {s : Text} :
    s ∈ pctEncoded ↔ ∃ a b, isHexDigit a = true ∧ isHexDigit b = true ∧ s = [char '%', a, b] := by
  rw [pctEncoded, mul_assoc, mem_mark_mul, hexDigit_eq]
  constructor
  · rintro ⟨_, ⟨_, ⟨a, ha, rfl⟩, _, ⟨b, hb, rfl⟩, rfl⟩, rfl⟩
    exact ⟨a, b, ha, hb, rfl⟩
  · rintro ⟨a, b, ha, hb, rfl⟩
    exact ⟨[a, b], ⟨[a], ⟨a, ha, rfl⟩, [b], ⟨b, hb, rfl⟩, rfl⟩, rfl⟩

theorem append_mem_kstar {l : Language CodePoint} {s t : Text} (hs : s ∈ l) (ht : t ∈ l∗) :
    s ++ t ∈ l∗ :=
  mul_kstar_le_kstar (a := l) (Language.append_mem_mul hs ht)

/-- **Characters of a class and escapes**, for a class that has the hexadecimal digits. -/
theorem mem_escaped_iff {p : CodePoint → Bool} (hex : ∀ c, isHexDigit c = true → p c = true)
    (percent : p '%' = false) {s : Text} :
    s ∈ (one p + pctEncoded)∗ ↔ (∀ c ∈ s, p c = true ∨ c = '%') ∧ escapesFit s = true := by
  constructor
  · rw [Language.mem_kstar]
    rintro ⟨pieces, rfl, each⟩
    induction pieces with
    | nil => exact ⟨by simp, rfl⟩
    | cons piece pieces ih =>
      obtain ⟨classes, fits⟩ := ih fun y hy => each y (List.mem_cons_of_mem _ hy)
      rcases each piece List.mem_cons_self with ⟨c, hc, rfl⟩ | escape
      · have plain : c ≠ '%' := by rintro rfl; simp [percent] at hc
        refine ⟨?_, by simpa [escapesFit_cons plain] using fits⟩
        simpa [hc] using classes
      · obtain ⟨a, b, ha, hb, rfl⟩ := mem_pctEncoded.mp escape
        refine ⟨?_, by simpa [escapesFit_percent, ha, hb] using fits⟩
        simpa [hex a ha, hex b hb] using classes
  · rintro ⟨classes, fits⟩
    fun_induction escapesFit s with
    | case1 => exact Language.nil_mem_kstar _
    | case2 a b s ih =>
      simp only [Bool.and_eq_true] at fits
      have rest := ih (fun c hc => classes c (by simp [hc])) fits.2
      exact append_mem_kstar (Or.inr (mem_pctEncoded.mpr ⟨a, b, fits.1.1, fits.1.2, rfl⟩)) rest
    | case3 c s _ ih =>
      simp only [Bool.and_eq_true, bne_iff_ne] at fits
      have rest := ih (fun d hd => classes d (by simp [hd])) fits.2
      have hc := (classes c List.mem_cons_self).resolve_right fits.1
      exact append_mem_kstar (Or.inl ⟨c, hc, rfl⟩) rest

/-! ## Components -/

theorem isUnreserved_of_isHexDigit {c : CodePoint} (h : isHexDigit c = true) :
    isUnreserved c = true := by
  have small : c.toNat < 128 := by
    simp only [isHexDigit, CodePoint.isDigit, Bool.or_eq_true, Bool.and_eq_true, decide_eq_true_eq,
      CodePoint.le_def] at h
    change ((48 ≤ c.toNat ∧ c.toNat ≤ 57) ∨ (97 ≤ c.toNat ∧ c.toNat ≤ 102)) ∨
      (65 ≤ c.toNat ∧ c.toNat ≤ 70) at h
    omega
  have all := of_ascii (p := fun c => !isHexDigit c || isUnreserved c) (by decide +kernel) small
  simpa [h] using all

/-- As `mem_escaped_iff`, for a class `q` that counts the percent sign in. -/
theorem mem_escaped_iff_all {p q : CodePoint → Bool}
    (unreserved : ∀ c, isUnreserved c = true → p c = true) (percent : p '%' = false)
    (hq : ∀ c, q c = (p c || c = '%')) {s : Text} :
    s ∈ (one p + pctEncoded)∗ ↔ s.all q = true ∧ escapesFit s = true := by
  rw [mem_escaped_iff (fun c hc => unreserved c (isUnreserved_of_isHexDigit hc)) percent,
    List.all_eq_true]
  simp only [hq, Bool.or_eq_true, decide_eq_true_eq]

/-- Whether a registered name may hold the character. -/
def isNameChar (c : CodePoint) : Bool := isUnreserved c || isSubDelim c || c = '%'

theorem mem_regName_iff {s : Text} :
    s ∈ regName ↔ s.all isNameChar = true ∧ escapesFit s = true := by
  have rule : regName = (one (fun c => isUnreserved c || isSubDelim c) + pctEncoded)∗ := by
    rw [regName, unreserved_eq, subDelims_eq, add_right_comm, one_add_one]
  rw [rule]
  exact mem_escaped_iff_all (by simp +contextual) (by decide) fun c => rfl

theorem mem_userinfo_iff {s : Text} :
    s ∈ userinfo ↔ s.all Component.userInfo.allows = true ∧ escapesFit s = true := by
  have rule : userinfo =
      (one (fun c => isUnreserved c || isSubDelim c || c = ':') + pctEncoded)∗ := by
    rw [userinfo, unreserved_eq, subDelims_eq, mark, add_right_comm _ pctEncoded, one_add_one,
      add_right_comm, one_add_one]
  rw [rule]
  refine mem_escaped_iff_all (by simp +contextual) (by decide) fun c => ?_
  simp only [Component.allows, Bool.or_assoc, Bool.or_comm (c = '%' : Bool)]

/-- Whether a path segment may hold the character, the percent sign of escapes apart. -/
def isSegmentChar (c : CodePoint) : Bool :=
  isUnreserved c || isSubDelim c || c = ':' || c = '@'

theorem pchar_eq : pchar = one isSegmentChar + pctEncoded := by
  rw [pchar, unreserved_eq, subDelims_eq, oneOf, add_right_comm _ pctEncoded, one_add_one,
    add_right_comm, one_add_one]
  congr 1
  refine one_congr fun c => ?_
  simp [isSegmentChar, String.toText, Bool.or_assoc]

theorem mem_query_iff {s : Text} :
    s ∈ query ↔ s.all Component.query.allows = true ∧ escapesFit s = true := by
  have rule : query =
      (one (fun c => isSegmentChar c || c = '/' || c = '?') + pctEncoded)∗ := by
    rw [query, pchar_eq, oneOf, add_right_comm, one_add_one]
    simp [String.toText, Bool.or_assoc]
  rw [rule]
  refine mem_escaped_iff_all (by simp +contextual [isSegmentChar]) (by decide) fun c => ?_
  simp only [Component.allows, isSegmentChar, Bool.or_assoc, Bool.or_comm (c = '%' : Bool)]

theorem mem_fragment_iff {s : Text} :
    s ∈ fragment ↔ s.all Component.fragment.allows = true ∧ escapesFit s = true :=
  mem_query_iff

theorem mem_kstar_one {p : CodePoint → Bool} {s : Text} : s ∈ (one p)∗ ↔ s.all p = true := by
  constructor
  · rw [Language.mem_kstar]
    rintro ⟨pieces, rfl, each⟩
    rw [List.all_eq_true]
    intro c hc
    obtain ⟨piece, hp, hc⟩ := List.mem_flatten.mp hc
    obtain ⟨d, hd, rfl⟩ := each piece hp
    rwa [List.mem_singleton.mp hc]
  · intro h
    induction s with
    | nil => exact Language.nil_mem_kstar _
    | cons c s ih =>
      rw [List.all_cons, Bool.and_eq_true] at h
      exact append_mem_kstar (s := [c]) ⟨c, h.1, rfl⟩ (ih h.2)

theorem mem_port_iff {s : Text} : s ∈ port ↔ s.all CodePoint.isDigit = true := by
  rw [port, digit_eq]
  exact mem_kstar_one

theorem mem_scheme_iff {s : Text} : s ∈ scheme ↔ isScheme s = true := by
  have rest : alpha + digit + oneOf "+-." = one isSchemeChar := by
    rw [alpha_eq, digit_eq, oneOf, one_add_one, one_add_one]
    refine one_congr fun c => ?_
    simp [isSchemeChar, CodePoint.isAlphanum, String.toText, Bool.or_assoc]
  rw [scheme, rest, alpha_eq, Language.mem_mul]
  constructor
  · rintro ⟨_, ⟨c, hc, rfl⟩, t, ht, rfl⟩
    simpa [isScheme, hc] using mem_kstar_one.mp ht
  · intro h
    rcases s with _ | ⟨c, t⟩
    · simp [isScheme] at h
    · rw [isScheme, Bool.and_eq_true] at h
      exact ⟨[c], ⟨c, h.1, rfl⟩, t, mem_kstar_one.mpr h.2, rfl⟩

/-! ## Hosts -/

theorem one_le_one {p q : CodePoint → Bool} (h : ∀ c, p c = true → q c = true) : one p ≤ one q :=
  fun _ ⟨c, hc, e⟩ => ⟨c, h c hc, e⟩

theorem mul_le_kstar {a b l : Language CodePoint} (ha : a ≤ l∗) (hb : b ≤ l∗) : a * b ≤ l∗ :=
  (mul_le_mul' ha hb).trans (kstar_mul_kstar l).le

/-- A range of digits. -/
theorem range_le_digit {first last : CodePoint} (h : '0' ≤ first) (h' : last ≤ '9') :
    range first last ≤ digit := by
  refine one_le_one fun c hc => ?_
  simp only [Bool.and_eq_true, decide_eq_true_eq] at hc ⊢
  exact ⟨CodePoint.le_trans h hc.1, CodePoint.le_trans hc.2 h'⟩

theorem ipv4Address_le_regName : ipv4Address ≤ regName := by
  have unreserved_le : unreserved ≤ regName := by
    refine le_trans ?_ le_kstar
    rw [add_assoc]
    exact le_self_add
  have digit_le : digit ≤ regName := by
    refine le_trans ?_ unreserved_le
    rw [unreserved_eq, digit_eq]
    exact one_le_one fun c hc => by simp [isUnreserved, CodePoint.isAlphanum, hc]
  have mark_le (c : CodePoint) (hc : isUnreserved c = true) : mark c ≤ regName := by
    refine le_trans ?_ unreserved_le
    rw [unreserved_eq]
    exact one_le_one fun d hd => of_decide_eq_true hd ▸ hc
  have range_le {first last : CodePoint} (h : '0' ≤ first) (h' : last ≤ '9') :
      range first last ≤ regName := (range_le_digit h h').trans digit_le
  have octet_le : decOctet ≤ regName := by
    refine add_le (add_le (add_le (add_le digit_le ?_) ?_) ?_) ?_
    · exact mul_le_kstar (range_le (by decide) (by decide)) digit_le
    · exact mul_le_kstar (mul_le_kstar (mark_le _ (by decide)) digit_le) digit_le
    · exact mul_le_kstar (mul_le_kstar (mark_le _ (by decide))
        (range_le (by decide) (by decide))) digit_le
    · exact mul_le_kstar (mul_le_kstar (mark_le _ (by decide)) (mark_le _ (by decide)))
        (range_le (by decide) (by decide))
  have dot_le := mark_le '.' (by decide)
  have two := mul_le_kstar (mul_le_kstar octet_le dot_le) octet_le
  have three := mul_le_kstar (mul_le_kstar two dot_le) octet_le
  exact mul_le_kstar (mul_le_kstar three dot_le) octet_le

/-- A host without a bracket is a registered name, also if it is an address. -/
theorem mem_host_iff {s : Text} (h : char '[' ∉ s) : s ∈ host ↔ s ∈ regName := by
  rw [host, Language.mem_add, Language.mem_add]
  constructor
  · rintro ((literal | address) | name)
    · rw [ipLiteral, mul_assoc, mem_mark_mul] at literal
      obtain ⟨t, -, rfl⟩ := literal
      exact absurd List.mem_cons_self h
    · exact ipv4Address_le_regName address
    · exact name
  · exact Or.inr

/-! ## Paths -/

/-- Texts over two languages, cut before each text of the second. -/
theorem kstar_add (a b : Language CodePoint) : (a + b)∗ = a∗ * (b * a∗)∗ := by
  apply le_antisymm
  · refine kstar_le_of_mul_le_right (one_le_mul one_le_kstar one_le_kstar) ?_
    rw [add_mul]
    refine add_le ?_ ?_
    · rw [← mul_assoc]
      exact mul_le_mul_left mul_kstar_le_kstar _
    · calc b * (a∗ * (b * a∗)∗) = b * a∗ * (b * a∗)∗ := (mul_assoc ..).symm
        _ ≤ (b * a∗)∗ := mul_kstar_le_kstar
        _ = 1 * (b * a∗)∗ := (one_mul _).symm
        _ ≤ a∗ * (b * a∗)∗ := mul_le_mul_left one_le_kstar _
  · have ha : a∗ ≤ (a + b)∗ := kstar_mono le_self_add
    have hb : b ≤ (a + b)∗ := le_add_self.trans le_kstar
    have blocks : (b * a∗)∗ ≤ (a + b)∗ :=
      (kstar_mono (mul_le_kstar hb ha)).trans (kstar_idem _).le
    exact mul_le_kstar ha blocks

theorem mem_segmentNz_iff {s : Text} : s ∈ segmentNz ↔ s ∈ segment ∧ s ≠ [] := by
  have nonempty : [] ∉ pchar := by
    rw [pchar_eq, Language.mem_add, mem_one, mem_pctEncoded]
    simp
  rw [segmentNz, many, segment, Language.mem_mul, Language.mem_kstar_iff_exists_nonempty]
  constructor
  · rintro ⟨a, ha, b, hb, rfl⟩
    obtain ⟨pieces, rfl, each⟩ := Language.mem_kstar_iff_exists_nonempty.mp hb
    have hne : a ≠ [] := fun e => nonempty (e ▸ ha)
    refine ⟨⟨a :: pieces, rfl, ?_⟩, by simp [hne]⟩
    rintro y (_ | ⟨_, hy⟩)
    · exact ⟨ha, hne⟩
    · exact each y hy
  · rintro ⟨⟨_ | ⟨a, pieces⟩, rfl, each⟩, hne⟩
    · exact absurd rfl hne
    · refine ⟨a, (each a List.mem_cons_self).1, pieces.flatten, ?_, rfl⟩
      exact Language.join_mem_kstar fun y hy => (each y (List.mem_cons_of_mem _ hy)).1

/-- A segment begins with no slash. -/
theorem head_ne_of_mem_segment {c : CodePoint} {s : Text} (h : c :: s ∈ segment) : c ≠ '/' := by
  rw [segment, pchar_eq,
    mem_escaped_iff (fun c hc => by simp [isSegmentChar, isUnreserved_of_isHexDigit hc])
      (by decide)] at h
  rintro rfl
  rcases h.1 '/' List.mem_cons_self with h | h
  · exact absurd h (by decide)
  · exact absurd h (by decide)

/-- Segments and slashes in any order are a segment and further ones after slashes. -/
theorem slashed_eq : (pchar + mark '/')∗ = segment * pathAbempty := kstar_add pchar (mark '/')

theorem mem_slashed_iff {s : Text} :
    s ∈ (pchar + mark '/')∗ ↔ s.all Component.path.allows = true ∧ escapesFit s = true := by
  rw [pchar_eq, mark, add_right_comm, one_add_one]
  refine mem_escaped_iff_all (by simp +contextual [isSegmentChar]) (by decide) fun c => ?_
  simp only [Component.allows, isSegmentChar, Bool.or_assoc, Bool.or_comm (c = '%' : Bool)]

/-- A path after an authority is empty or begins with a slash. -/
theorem mem_pathAbempty_iff {s : Text} :
    s ∈ pathAbempty ↔ (s.all Component.path.allows = true ∧ escapesFit s = true) ∧
      (s = [] ∨ s.head? = some (char '/')) := by
  rw [← mem_slashed_iff, slashed_eq]
  constructor
  · intro h
    refine ⟨⟨[], Language.nil_mem_kstar _, s, h, rfl⟩, ?_⟩
    obtain ⟨_ | ⟨piece, pieces⟩, rfl, each⟩ := Language.mem_kstar.mp h
    · exact Or.inl rfl
    · obtain ⟨t, -, rfl⟩ := mem_mark_mul.mp (each piece List.mem_cons_self)
      exact Or.inr rfl
  · rintro ⟨⟨_ | ⟨c, t⟩, ht, rest, hr, rfl⟩, start⟩
    · exact hr
    · have hc := head_ne_of_mem_segment ht
      simp [hc] at start

/-- A path without an authority does not begin with two slashes. -/
theorem mem_path_iff {s : Text} :
    s ∈ pathRule none ↔ (s.all Component.path.allows = true ∧ escapesFit s = true) ∧
      beginsAuthority s = false := by
  have rootless {t : Text} (h : t ∈ segmentNz * pathAbempty) :
      t ∈ segment * pathAbempty ∧ ∃ c u, t = c :: u ∧ c ≠ '/' := by
    obtain ⟨a, ha, b, hb, rfl⟩ := h
    obtain ⟨ha, hne⟩ := mem_segmentNz_iff.mp ha
    obtain ⟨c, u, rfl⟩ := List.exists_cons_of_ne_nil hne
    exact ⟨⟨_, ha, b, hb, rfl⟩, c, u ++ b, rfl, head_ne_of_mem_segment ha⟩
  rw [← mem_slashed_iff, pathRule, Language.mem_add, Language.mem_add]
  constructor
  · rintro ((absolute | rest) | empty)
    · obtain ⟨t, ht, rfl⟩ := mem_mark_mul.mp absolute
      rcases mem_optional.mp ht with rfl | ht
      · exact ⟨append_mem_kstar (s := [char '/']) (Or.inr (mem_mark.mpr rfl))
          (Language.nil_mem_kstar _), rfl⟩
      · obtain ⟨ht, c, u, rfl, hc⟩ := rootless ht
        rw [← slashed_eq] at ht
        exact ⟨append_mem_kstar (s := [char '/']) (Or.inr (mem_mark.mpr rfl)) ht,
          by simp [beginsAuthority, hc]⟩
    · obtain ⟨ht, c, u, rfl, hc⟩ := rootless rest
      rw [← slashed_eq] at ht
      exact ⟨ht, by simp [beginsAuthority, hc]⟩
    · rw [(Language.mem_one _).mp empty]
      exact ⟨Language.nil_mem_kstar _, rfl⟩
  · rintro ⟨slashed, start⟩
    rw [slashed_eq] at slashed
    obtain ⟨a, ha, b, hb, rfl⟩ := slashed
    by_cases hne : a = []
    · subst hne
      obtain ⟨_ | ⟨piece, pieces⟩, rfl, each⟩ := Language.mem_kstar.mp hb
      · exact Or.inr rfl
      · obtain ⟨t, ht, rfl⟩ := mem_mark_mul.mp (each piece List.mem_cons_self)
        have rest : pieces.flatten ∈ pathAbempty :=
          Language.join_mem_kstar fun y hy => each y (List.mem_cons_of_mem _ hy)
        refine Or.inl (Or.inl (mem_mark_mul.mpr ⟨t ++ pieces.flatten, ?_, rfl⟩))
        by_cases hne : t = []
        · -- a second slash could only come from an empty first segment
          subst hne
          rcases (mem_pathAbempty_iff.mp rest).2 with none | second
          · exact Or.inl none
          · obtain ⟨u, hu⟩ := List.head?_eq_some_iff.mp second
            simp [hu, beginsAuthority] at start
        · exact Or.inr ⟨t, mem_segmentNz_iff.mpr ⟨ht, hne⟩, _, rest, rfl⟩
    · exact Or.inl (Or.inr ⟨a, mem_segmentNz_iff.mpr ⟨ha, hne⟩, b, hb, rfl⟩)

end Grammar

end Dialer.Uri
