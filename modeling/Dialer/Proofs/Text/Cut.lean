import Dialer.Text.Basic
import Mathlib.Data.List.TakeWhile

/-!
# Cuts and what they determine

A cut and its two pieces determine each other: `cutFirst_append_elim` and `cutLast_elim_append` give
the pieces of a text that is made up from them, `eq_of_cutFirst` and `eq_of_cutLast` a text from its
pieces. `trim_append` gives what is left of a text whose ends are trimmed off.
-/

namespace Dialer.Text

variable {c : CodePoint} {s : Text}

/-! ## The first cut -/

theorem cutFirst_of_not_mem (h : c ∉ s) : cutFirst c s = (s, none) := by
  induction s with
  | nil => rfl
  | cons d s ih =>
    have hd := List.ne_of_not_mem_cons h
    have hs := List.not_mem_of_not_mem_cons h
    rw [cutFirst, if_neg (Ne.symm hd), ih hs]

theorem cutFirst_append {before : Text} (h : c ∉ before) (after : Text) :
    cutFirst c (before ++ c :: after) = (before, some after) := by
  induction before with
  | nil => exact if_pos rfl
  | cons d before ih =>
    have hd := List.ne_of_not_mem_cons h
    have hs := List.not_mem_of_not_mem_cons h
    rw [List.cons_append, cutFirst, if_neg (Ne.symm hd), ih hs]

theorem cutFirst_append_elim {before : Text} (h : c ∉ before) (after : Option Text) :
    cutFirst c (before ++ after.elim [] (c :: ·)) = (before, after) := by
  cases after with
  | none => simpa using cutFirst_of_not_mem h
  | some after => exact cutFirst_append h after

theorem eq_of_cons_eq_elim {d : CodePoint} {t : Text} {after : Option Text}
    (h : d :: t = after.elim [] (c :: ·)) : d = c := by
  cases after with
  | none => cases h
  | some after => exact (List.cons.inj h).1

theorem eq_of_cutFirst {before : Text} {after : Option Text} (h : cutFirst c s = (before, after)) :
    s = before ++ after.elim [] (c :: ·) ∧ c ∉ before := by
  have join := cutFirst_join c s
  have fresh := not_mem_cutFirst c s
  rw [h] at join fresh
  refine ⟨?_, fresh⟩
  cases after with
  | none => simpa [joinFirst] using join.symm
  | some after => exact join.symm

theorem takeWhile_of_cutFirst {before : Text} {after : Option Text}
    (h : cutFirst c s = (before, after)) : s.takeWhile (· ≠ c) = before := by
  obtain ⟨rfl, fresh⟩ := eq_of_cutFirst h
  have plain : ∀ d ∈ before, decide (d ≠ c) = true := fun d hd =>
    decide_eq_true fun e => fresh (e ▸ hd)
  rw [List.takeWhile_append_of_pos plain]
  cases after <;> simp

theorem dropWhile_of_cutFirst {before : Text} {after : Option Text}
    (h : cutFirst c s = (before, after)) : s.dropWhile (· ≠ c) = after.elim [] (c :: ·) := by
  obtain ⟨rfl, fresh⟩ := eq_of_cutFirst h
  have plain : ∀ d ∈ before, decide (d ≠ c) = true := fun d hd =>
    decide_eq_true fun e => fresh (e ▸ hd)
  rw [List.dropWhile_append_of_pos plain]
  cases after <;> simp

/-! ## The last cut -/

theorem cutLast_of_not_mem (h : c ∉ s) : cutLast c s = (none, s) := by
  induction s with
  | nil => rfl
  | cons d s ih =>
    have hd := List.ne_of_not_mem_cons h
    have hs := List.not_mem_of_not_mem_cons h
    rw [cutLast, ih hs]
    exact if_neg (Ne.symm hd)

theorem cutLast_append (before : Text) {after : Text} (h : c ∉ after) :
    cutLast c (before ++ c :: after) = (some before, after) := by
  induction before with
  | nil =>
    rw [List.nil_append, cutLast, cutLast_of_not_mem h]
    exact if_pos rfl
  | cons d before ih => rw [List.cons_append, cutLast, ih]

theorem cutLast_elim_append (before : Option Text) {after : Text} (h : c ∉ after) :
    cutLast c (before.elim [] (· ++ [c]) ++ after) = (before, after) := by
  cases before with
  | none => exact cutLast_of_not_mem h
  | some before => simpa using cutLast_append before h

theorem eq_of_cutLast {before : Option Text} {after : Text} (h : cutLast c s = (before, after)) :
    s = before.elim [] (· ++ [c]) ++ after ∧ c ∉ after := by
  have join := cutLast_join c s
  have fresh := not_mem_cutLast c s
  rw [h] at join fresh
  refine ⟨?_, fresh⟩
  cases before with
  | none => exact join.symm
  | some before => simpa [joinLast] using join.symm

/-! ## All cuts -/

theorem splitOn_map {f : CodePoint → CodePoint} (hf : ∀ d, f d = c ↔ d = c) (s : Text) :
    splitOn c (s.map f) = (splitOn c s).map (List.map f) := by
  induction s with
  | nil => rfl
  | cons d s ih =>
    by_cases hd : d = c
    · simp [splitOn, hf, hd, ih]
    · simp only [List.map_cons, splitOn, hf, hd, if_false, ih]
      cases splitOn c s <;> rfl

/-- A character of a text is one that it is cut at, or stands in a piece. -/
theorem mem_splitOn {d : CodePoint} (h : d ∈ s) : d = c ∨ ∃ piece ∈ splitOn c s, d ∈ piece := by
  induction s with
  | nil => cases h
  | cons e s ih =>
    by_cases he : e = c
    · simp only [splitOn, he, if_true]
      rcases List.mem_cons.mp h with rfl | h
      · exact Or.inl he
      · rcases ih h with same | ⟨piece, hp, hd⟩
        · exact Or.inl same
        · exact Or.inr ⟨piece, List.mem_cons_of_mem _ hp, hd⟩
    · simp only [splitOn, he, if_false]
      rcases pieces : splitOn c s with _ | ⟨first, rest⟩
      · exact absurd pieces (splitOn_ne_nil c s)
      · simp only [pieces, List.mem_cons, exists_eq_or_imp] at ih ⊢
        rcases List.mem_cons.mp h with rfl | h
        · exact Or.inr (Or.inl (Or.inl rfl))
        · exact (ih h).imp_right (Or.imp_left Or.inr)

/-! ## Trimming -/

/-- Nothing is left of a text exactly if all of it is trimmed off. -/
theorem trim_eq_nil_iff {p : CodePoint → Bool} {s : Text} :
    trim p s = [] ↔ ∀ c ∈ s, p c = true := by
  rw [trim, List.reverse_eq_nil_iff, List.dropWhile_eq_nil_iff]
  constructor
  · intro trimmed
    apply List.dropWhile_eq_nil_iff.mp
    rcases rest : s.dropWhile p with _ | ⟨c, t⟩
    · rfl
    · have stays : p c = false := by
        have first := List.head?_dropWhile_not p s
        rwa [rest] at first
      rw [trimmed c (by simp [rest])] at stays
      cases stays
  · intro all c hc
    exact all c ((List.dropWhile_sublist p).mem (List.mem_reverse.mp hc))

/-- Trimming leaves what stands between two ends that are trimmed off. -/
theorem trim_append {p : CodePoint → Bool} {l m r : Text} (left : ∀ c ∈ l, p c = true)
    (middle : ∀ c ∈ m, p c = false) (right : ∀ c ∈ r, p c = true) : trim p (l ++ m ++ r) = m := by
  rw [trim, List.append_assoc, List.dropWhile_append_of_pos left]
  rcases m with _ | ⟨c, m⟩
  · rw [List.nil_append, List.dropWhile_eq_nil_iff.mpr right]
    rfl
  · have first : ¬ p c = true := Bool.eq_false_iff.mp (middle c List.mem_cons_self)
    have last : (c :: m).reverse.dropWhile p = (c :: m).reverse :=
      List.dropWhile_eq_self_iff.mpr fun hl =>
        Bool.eq_false_iff.mp (middle _ (List.mem_reverse.mp (List.getElem_mem hl)))
    rw [List.cons_append, List.dropWhile_cons_of_neg first, ← List.cons_append,
      List.reverse_append,
      List.dropWhile_append_of_pos fun c hc => right c (List.mem_reverse.mp hc), last,
      List.reverse_reverse]

end Dialer.Text
