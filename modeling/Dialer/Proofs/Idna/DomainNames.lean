import Dialer.Idna.Domain
import Dialer.Proofs.Uri.HostForm

/-!
# The ASCII form of a domain name

What encoding gives is a domain name in lower case, whatever it is given.

* `Punycode.mem_encode` and `Punycode.mem_of_decode` say where the characters of encoded labels
  come from; `Label.isValid_ascii` says which ASCII characters a valid label has.
* `givesNames_encode?` is the result on whole hosts.
-/

namespace Dialer.Idna

open Text Uri

/-! ## Punycode -/

namespace Punycode

theorem isLetterDigitHyphen_digitChar {d : Nat} (h : d < 36) :
    isLetterDigitHyphen (digitChar d) = true := by
  have all : ∀ e ∈ List.range 36, isLetterDigitHyphen (digitChar e) = true := by decide
  exact all d (List.mem_range.mpr h)

theorem isLetterDigitHyphen_of_mem_encodeNumber {bias k q : Nat} {c : CodePoint}
    (h : c ∈ encodeNumber bias k q) : isLetterDigitHyphen c = true := by
  have low := threshold_pos k bias
  have high := threshold_le k bias
  fun_induction encodeNumber bias k q with
  | case1 k q t small =>
    rw [List.mem_singleton.mp h]
    exact isLetterDigitHyphen_digitChar (by omega)
  | case2 k q t large ih =>
    rcases List.mem_cons.mp h with rfl | h
    · refine isLetterDigitHyphen_digitChar ?_
      have := Nat.mod_lt (q - t) (show 0 < 36 - t by omega)
      omega
    · exact ih h (threshold_pos _ _) (threshold_le _ _)

/-- A pass writes digits only. -/
theorem Writer.mem_output_pass {n : Nat} {w : Writer} {s : Text} {c : CodePoint}
    (h : c ∈ (w.pass n s).output) : c ∈ w.output ∨ isLetterDigitHyphen c = true := by
  induction s generalizing w with
  | nil => exact Or.inl h
  | cons d s ih =>
    rcases ih h with h | h
    · split at h
      · exact Or.inl h
      · split at h
        · rcases List.mem_append.mp h with h | h
          · exact Or.inl h
          · exact Or.inr (isLetterDigitHyphen_of_mem_encodeNumber h)
        · exact Or.inl h
    · exact Or.inr h

theorem Writer.mem_output_run {label : Text} {w : Writer} {n : Nat} {points : List Nat}
    {c : CodePoint}
    (h : c ∈ (w.run label n points).output) : c ∈ w.output ∨ isLetterDigitHyphen c = true := by
  induction points generalizing w n with
  | nil => exact Or.inl h
  | cons m later ih =>
    rcases ih h with h | h
    · rcases mem_output_pass h with h | h
      · exact Or.inl h
      · exact Or.inr h
    · exact Or.inr h

/-- An encoded label has the ASCII characters of the label and otherwise digits and a hyphen. -/
theorem mem_encode {label : Text} {c : CodePoint} (h : c ∈ encode label) :
    (c ∈ label ∧ c.toNat < 128) ∨ isLetterDigitHyphen c = true := by
  have written {start : Writer} (empty : start.output = []) {points : List Nat}
      (h : c ∈ (start.run label 128 points).output) : isLetterDigitHyphen c = true := by
    rcases Writer.mem_output_run h with h | h
    · rw [empty] at h
      exact absurd h List.not_mem_nil
    · exact h
  unfold encode at h
  dsimp only at h
  split at h
  · exact Or.inr (written rfl h)
  · rcases List.mem_append.mp h with basic | h
    · obtain ⟨mem, small⟩ := List.mem_filter.mp basic
      exact Or.inl ⟨mem, of_decide_eq_true small⟩
    · rcases List.mem_cons.mp h with rfl | h
      · exact Or.inr (by decide)
      · exact Or.inr (written rfl h)

theorem mem_insertIdx_of_mem {n m : Nat} {l : List Nat} (h : n ∈ l) (i : Nat) :
    n ∈ l.insertIdx i m := by
  induction l generalizing i with
  | nil => exact absurd h List.not_mem_nil
  | cons k l ih =>
    cases i with
    | zero => exact List.mem_cons_of_mem m h
    | succ i =>
      rw [List.insertIdx_succ_cons]
      rcases List.mem_cons.mp h with rfl | h
      · exact List.mem_cons_self
      · exact List.mem_cons_of_mem k (ih h i)

/-- Reading keeps what is placed and accepts digits only. -/
theorem Reader.run_eq_some {r : Reader} {s : Text} {codes : List Nat} (h : r.run s = some codes) :
    (∀ n ∈ r.output, n ∈ codes) ∧ ∀ c ∈ s, (digitValue c).isSome = true := by
  induction s generalizing r with
  | nil =>
    unfold run at h
    split at h
    · rw [← Option.some.inj h]
      exact ⟨fun _ => id, nofun⟩
    · cases h
  | cons c s ih =>
    rw [run] at h
    cases digit : digitValue c with
    | none =>
      rw [digit] at h
      cases h
    | some d =>
      simp only [digit] at h
      have head : ∀ rest : Text, (∀ e ∈ rest, (digitValue e).isSome = true) →
          ∀ e ∈ c :: rest, (digitValue e).isSome = true := by
        intro rest all e he
        rcases List.mem_cons.mp he with rfl | he
        · rw [digit]
          rfl
        · exact all e he
      split at h
      · cases placed : r.place (r.number + d * r.weight) with
        | none =>
          rw [placed] at h
          cases h
        | some next =>
          simp only [placed] at h
          obtain ⟨kept, digits⟩ := ih h
          refine ⟨fun n hn => kept n ?_, head s digits⟩
          unfold place at placed
          simp only at placed
          split at placed
          · cases placed
          · rw [← Option.some.inj placed]
            exact mem_insertIdx_of_mem hn _
      · obtain ⟨kept, digits⟩ := ih h
        exact ⟨kept, head s digits⟩

theorem mem_of_mapM_codePoint? {codes : List Nat} {t : Text} (h : codes.mapM codePoint? = some t)
    {c : CodePoint} (hc : c.toNat ∈ codes) : c ∈ t := by
  induction codes generalizing t with
  | nil => exact absurd hc List.not_mem_nil
  | cons n codes ih =>
    simp only [List.mapM_cons, Option.bind_eq_bind, Option.bind_eq_some_iff, Option.pure_def,
      Option.some.injEq] at h
    obtain ⟨d, hd, rest, hrest, rfl⟩ := h
    rcases List.mem_cons.mp hc with rfl | hc
    · rw [codePoint?, if_pos c.toNat_lt, CodePoint.ofNat_toNat] at hd
      rw [Option.some.inj hd]
      exact List.mem_cons_self
    · exact List.mem_cons_of_mem d (ih hrest hc)

/-- The characters of an encoded text stand in what it encodes, or are digits and a hyphen. -/
theorem mem_of_decode {s t : Text} (h : decode s = some t) {c : CodePoint} (hc : c ∈ s) :
    c ∈ t ∨ c = '-' ∨ (digitValue c).isSome = true := by
  rcases cut : cutLast '-' s with ⟨basic, digits⟩
  obtain ⟨rfl, -⟩ := eq_of_cutLast cut
  rw [decode, cut] at h
  simp only at h
  split at h
  next => cases h
  next codes read =>
    obtain ⟨kept, all⟩ := Reader.run_eq_some read
    rcases List.mem_append.mp hc with front | back
    · cases basic with
      | none => exact absurd front List.not_mem_nil
      | some b =>
        rcases List.mem_append.mp front with mem | mark
        · exact Or.inl (mem_of_mapM_codePoint? h (kept _ (List.mem_map_of_mem mem)))
        · exact Or.inr (Or.inl (List.mem_singleton.mp mark))
    · exact Or.inr (Or.inr (all c back))

end Punycode

/-! ## Labels -/

namespace Label

theorem fitsContext_of_ascii {c : CodePoint} (h : c.toNat < 128) (before after : Text) :
    fitsContext before c after = false := by
  have ne (d : CodePoint) (hd : 128 ≤ d.toNat) : c ≠ d := by
    rintro rfl
    omega
  have arabic : isArabicIndic c = false ∧ isExtendedArabicIndic c = false := by
    simp only [isArabicIndic, isExtendedArabicIndic, Bool.and_eq_false_iff, decide_eq_false_iff_not]
    omega
  simp [fitsContext, arabic, ne '\u200C' (by decide), ne '\u200D' (by decide),
    ne '·' (by decide), ne '\u0375' (by decide), ne '\u05F3' (by decide), ne '\u05F4' (by decide),
    ne '\u30FB' (by decide)]

theorem ascii_of_allFit {before label : Text} (h : allFit before label = true) {c : CodePoint}
    (hc : c ∈ label) (small : c.toNat < 128) : isLetterDigitHyphen c = true := by
  induction label generalizing before with
  | nil => exact absurd hc List.not_mem_nil
  | cons d label ih =>
    simp only [allFit, Bool.and_eq_true, Bool.or_eq_true] at h
    rcases List.mem_cons.mp hc with rfl | hc
    · rcases h.1 with permitted | fits
      · rwa [isPermitted_of_ascii small] at permitted
      · rw [fitsContext_of_ascii small] at fits
        cases fits
    · exact ih h.2 hc

/-- The ASCII characters of a valid label are small letters, digits and hyphens. -/
theorem isValid_ascii {label : Text} (h : isValid label = true) :
    label ≠ [] ∧ ∀ c ∈ label, c.toNat < 128 → isLetterDigitHyphen c = true := by
  simp only [isValid, Bool.and_eq_true, Bool.not_eq_true', List.isEmpty_eq_false_iff] at h
  exact ⟨h.1.1.1.1.1, fun c hc => ascii_of_allFit h.1.2 hc⟩

theorem isLetterDigitHyphen_of_digit {c : CodePoint} (small : c.toNat < 128)
    (digit : (Punycode.digitValue c.toLower).isSome = true) :
    isLetterDigitHyphen c.toLower = true := by
  have all := of_ascii (p := fun c => !(Punycode.digitValue c.toLower).isSome ||
    isLetterDigitHyphen c.toLower) (by decide +kernel) small
  simpa [digit] using all

theorem isValidAscii_ascii {label : Text} (ascii : label.isAscii = true)
    (h : isValidAscii label = true) :
    label ≠ [] ∧ ∀ c ∈ label.map CodePoint.toLower, isLetterDigitHyphen c = true := by
  have lowered : ∀ c ∈ label.map CodePoint.toLower, c.toNat < 128 := by
    intro c hc
    obtain ⟨d, hd, rfl⟩ := List.mem_map.mp hc
    exact toNat_toLower_lt_iff.mpr (toNat_lt_of_isAscii ascii hd)
  unfold isValidAscii at h
  simp only at h
  split at h
  next marked =>
    obtain ⟨encoded, split⟩ := List.isPrefixOf_iff_prefix.mp marked
    have rest : (label.map CodePoint.toLower).drop 4 = encoded := by rw [← split]; rfl
    simp only [rest, Bool.and_eq_true, Option.any_eq_true] at h
    obtain ⟨-, t, decoded, valid⟩ := h
    refine ⟨?_, fun c hc => ?_⟩
    · rintro rfl
      cases split
    · have mem := hc
      rw [← split] at hc
      rcases List.mem_append.mp hc with mark | hc
      · exact List.all_eq_true.mp (show marker.all isLetterDigitHyphen = true by decide) c mark
      · rcases Punycode.mem_of_decode decoded hc with inside | rfl | digit
        · exact (isValid_ascii valid).2 c inside (lowered c mem)
        · decide
        · obtain ⟨d, hd, rfl⟩ := List.mem_map.mp mem
          exact isLetterDigitHyphen_of_digit (toNat_lt_of_isAscii ascii hd) digit
  next =>
    obtain ⟨nonempty, chars⟩ := isValid_ascii h
    exact ⟨fun e => nonempty (by rw [e]; rfl), fun c hc => chars c hc (lowered c hc)⟩

/-- An encoded label is not empty and made of small letters, digits and hyphens. -/
theorem encode?_eq_some {label name : Text} (h : encode? label = some name) :
    name ≠ [] ∧ ∀ c ∈ name, isLetterDigitHyphen c = true := by
  cases ascii : label.isAscii with
  | true =>
    simp only [encode?, ascii, if_true, Option.ite_none_right_eq_some, Bool.and_eq_true,
      Option.some.injEq] at h
    obtain ⟨⟨valid, -⟩, rfl⟩ := h
    obtain ⟨nonempty, chars⟩ := isValidAscii_ascii ascii valid
    exact ⟨fun e => nonempty (List.map_eq_nil_iff.mp e), chars⟩
  | false =>
    simp only [encode?, ascii, Bool.false_eq_true, if_false, Option.ite_none_right_eq_some,
      Bool.and_eq_true, Option.some.injEq] at h
    obtain ⟨⟨valid, -⟩, rfl⟩ := h
    refine ⟨nofun, fun c hc => ?_⟩
    rcases List.mem_append.mp hc with mark | hc
    · exact List.all_eq_true.mp (show marker.all isLetterDigitHyphen = true by decide) c mark
    · rcases Punycode.mem_encode hc with ⟨mem, small⟩ | fine
      · exact (isValid_ascii valid).2 c mem small
      · exact fine

end Label

/-! ## Domain names -/

theorem mem_joinLabels {labels : List Text} {c : CodePoint} (h : c ∈ joinLabels labels) :
    c = '.' ∨ ∃ label ∈ labels, c ∈ label := by
  induction labels with
  | nil => exact absurd h List.not_mem_nil
  | cons label labels ih =>
    cases labels with
    | nil => exact Or.inr ⟨label, List.mem_cons_self, h⟩
    | cons next labels =>
      rcases List.mem_append.mp h with h | h
      · exact Or.inr ⟨label, List.mem_cons_self, h⟩
      · rcases List.mem_cons.mp h with rfl | h
        · exact Or.inl rfl
        · rcases ih h with rfl | ⟨other, mem, h⟩
          · exact Or.inl rfl
          · exact Or.inr ⟨other, List.mem_cons_of_mem label mem, h⟩

theorem joinLabels_cons_ne_nil {label : Text} (h : label ≠ []) (labels : List Text) :
    joinLabels (label :: labels) ≠ [] := by
  cases labels with
  | nil => exact h
  | cons next labels => exact List.append_ne_nil_of_left_ne_nil h _

theorem encoded_of_mapM {labels encoded : List Text}
    (h : labels.mapM Label.encode? = some encoded) :
    (labels ≠ [] → encoded ≠ []) ∧
      ∀ name ∈ encoded, name ≠ [] ∧ ∀ c ∈ name, isLetterDigitHyphen c = true := by
  induction labels generalizing encoded with
  | nil =>
    rw [List.mapM_nil, Option.pure_def, Option.some.injEq] at h
    rw [← h]
    exact ⟨absurd rfl, nofun⟩
  | cons label labels ih =>
    simp only [List.mapM_cons, Option.bind_eq_bind, Option.bind_eq_some_iff, Option.pure_def,
      Option.some.injEq] at h
    obtain ⟨first, hfirst, rest, hrest, rfl⟩ := h
    refine ⟨fun _ => List.cons_ne_nil first rest, fun name mem => ?_⟩
    rcases List.mem_cons.mp mem with rfl | mem
    · exact Label.encode?_eq_some hfirst
    · exact (ih hrest).2 name mem

theorem isDomainName_joinLabels {encoded : List Text} (more : List Text) (nonempty : encoded ≠ [])
    (each : ∀ name ∈ encoded, name ≠ [] ∧ ∀ c ∈ name, isLetterDigitHyphen c = true)
    (last : ∀ name ∈ more, name = []) : IsDomainName (joinLabels (encoded ++ more)) := by
  obtain ⟨first, rest, rfl⟩ := List.exists_cons_of_ne_nil nonempty
  refine ⟨joinLabels_cons_ne_nil (each first List.mem_cons_self).1 _, ?_⟩
  refine List.all_eq_true.mpr fun c hc => ?_
  rcases mem_joinLabels hc with rfl | ⟨name, mem, hc⟩
  · decide
  · rcases List.mem_append.mp mem with mem | mem
    · have small : isLetterDigitHyphen c = true := (each name mem).2 c hc
      exact Bool.or_eq_true_iff.mpr (Or.inl small)
    · rw [last name mem] at hc
      exact absurd hc List.not_mem_nil

theorem isDomainName_of_encodeLabels {labels : List Text} {name : Text} (nonempty : labels ≠ [])
    (proper : labels ≠ [[]]) (h : encodeLabels labels = some name) : IsDomainName name := by
  unfold encodeLabels at h
  simp only at h
  cases rooted : labels.getLast? == some [] with
  | true =>
    simp only [rooted, if_true] at h
    split at h
    next => cases h
    next encoded all =>
      simp only [Option.ite_none_right_eq_some, Option.some.injEq] at h
      obtain ⟨-, rfl⟩ := h
      obtain ⟨some, each⟩ := encoded_of_mapM all
      refine isDomainName_joinLabels _ (some fun none => proper ?_) each (by simp)
      have last := List.dropLast_append_getLast? [] (by simpa using rooted)
      rw [none, List.nil_append] at last
      exact last.symm
  | false =>
    simp only [rooted, Bool.false_eq_true, if_false] at h
    split at h
    next => cases h
    next encoded all =>
      simp only [Option.ite_none_right_eq_some, Option.some.injEq] at h
      obtain ⟨-, rfl⟩ := h
      obtain ⟨some, each⟩ := encoded_of_mapM all
      simpa using isDomainName_joinLabels [] (some nonempty) each nofun

/-- **Encoding gives a domain name in lower case.** -/
theorem givesNames_encode? : HostEncoding.GivesNames encode? := by
  intro host name h
  unfold encode? at h
  split at h
  next => cases h
  next mapped _ =>
    split at h
    next => cases h
    next labels proper => exact isDomainName_of_encodeLabels (splitOn_ne_nil _ _) proper h

end Dialer.Idna
