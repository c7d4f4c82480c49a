import Dialer.Host.Literal
import Dialer.Proofs.Text.Cut
import Dialer.Proofs.Unicode.Lowercase

/-!
# Address literals in lower case

Lower case takes hexadecimal digits to hexadecimal digits and leaves the rest of an address as it
is, so that a literal in lower case is a literal of the same kind.

* `isIPv4_map` and `isIPv6_map` say so of addresses, `isFuture_map` of literals of a later version.
* `isIPv4_chars` and `isIPv6_chars` give the characters of addresses.
-/

namespace Dialer.Host

open Text Unicode

/-! ## Characters -/

theorem isHexDigit_smallLetter (c : CodePoint) : isHexDigit (smallLetter c) = isHexDigit c := by
  unfold smallLetter
  split
  next e =>
    subst e
    decide
  next =>
    rcases Nat.lt_or_ge c.toNat 128 with small | large
    · exact of_decide_eq_true
        (of_ascii (p := fun c => isHexDigit c.toLower = isHexDigit c) (by decide +kernel) small)
    · rw [toLower_of_not_ascii large]

theorem isDigit_ascii {c : CodePoint} (h : c.isDigit = true) :
    c.toNat < 128 ∧ c.isAlpha = false := by
  have small : c.toNat < 128 := by
    simp only [CodePoint.isDigit, Bool.and_eq_true, decide_eq_true_eq] at h
    have last : c.toNat ≤ 57 := h.2
    omega
  have all := of_ascii (p := fun c => !c.isDigit || !c.isAlpha) (by decide +kernel) small
  exact ⟨small, by simpa [h] using all⟩

theorem smallLetter_of_isDigit {c : CodePoint} (h : c.isDigit = true) : smallLetter c = c := by
  obtain ⟨small, plain⟩ := isDigit_ascii h
  exact (smallLetter_eq_iff small plain).mpr rfl

theorem smallLetter_colon (c : CodePoint) : smallLetter c = ':' ↔ c = ':' :=
  smallLetter_eq_iff (by decide) (by decide)

theorem smallLetter_dot (c : CodePoint) : smallLetter c = '.' ↔ c = '.' :=
  smallLetter_eq_iff (by decide) (by decide)

/-! ## IPv4 -/

theorem isIPv4_chars {s : Text} (h : isIPv4 s = true) {c : CodePoint} (hc : c ∈ s) :
    c.isDigit = true ∨ c = '.' := by
  simp only [isIPv4, Bool.and_eq_true, List.all_eq_true] at h
  rcases mem_splitOn (c := '.') hc with dot | ⟨octet, ho, inside⟩
  · exact Or.inr dot
  · have valid := h.2 octet ho
    simp only [isOctet, Bool.and_eq_true, List.all_eq_true] at valid
    exact Or.inl (valid.1.1.1.2 c inside)

theorem isIPv4_map {s : Text} (h : isIPv4 s = true) : s.map smallLetter = s := by
  have same : ∀ c ∈ s, smallLetter c = c := by
    intro c hc
    rcases isIPv4_chars h hc with digit | rfl
    · exact smallLetter_of_isDigit digit
    · exact (smallLetter_dot '.').mpr rfl
  rw [List.map_congr_left same, List.map_id']

/-! ## IPv6 -/

theorem isGroup_map (s : Text) : isGroup (s.map smallLetter) = isGroup s := by
  simp [isGroup, List.all_map, Function.comp_def, isHexDigit_smallLetter]

theorem groupsBeside_map (side : List Text) :
    groupsBeside (side.map (List.map smallLetter)) = groupsBeside side := by
  have groups : (side.map (List.map smallLetter)).all isGroup = side.all isGroup := by
    simp [List.all_map, Function.comp_def, isGroup_map]
  by_cases lone : side = [[]]
  · rw [lone]
    rfl
  · have lone' : side.map (List.map smallLetter) ≠ [[]] := by
      intro e
      obtain ⟨piece, rest, rfl, nil, none⟩ := List.map_eq_cons_iff.mp e
      rw [List.map_eq_nil_iff] at nil none
      exact lone (by rw [nil, none])
    rw [groupsBeside.eq_2 _ lone', groupsBeside.eq_2 _ lone, groups, List.length_map]

theorem piecesFit_map (pieces : List Text) :
    piecesFit (pieces.map (List.map smallLetter)) = piecesFit pieces := by
  have empty : (List.isEmpty ∘ List.map smallLetter : Text → Bool) = List.isEmpty := by
    funext piece
    simp
  have gap : (((pieces.map (List.map smallLetter)).drop 1).dropLast).findIdx? List.isEmpty =
      ((pieces.drop 1).dropLast).findIdx? List.isEmpty := by
    rw [← List.map_drop, ← List.map_dropLast, List.findIdx?_map, empty]
  have groups : (pieces.map (List.map smallLetter)).all isGroup = pieces.all isGroup := by
    simp [List.all_map, Function.comp_def, isGroup_map]
  rw [piecesFit, piecesFit, gap, groups, List.length_map]
  simp only [← List.map_take, ← List.map_drop, groupsBeside_map]

/-- The last piece is an IPv4 address or a group like the others. -/
theorem countedPieces_map {pieces counted : List Text} (h : countedPieces pieces = some counted) :
    countedPieces (pieces.map (List.map smallLetter)) =
      some (counted.map (List.map smallLetter)) := by
  unfold countedPieces at h ⊢
  rw [List.getLast?_map]
  cases hl : pieces.getLast? with
  | none =>
    simp only [hl, Option.some.injEq] at h
    simp [h]
  | some last =>
    have dots : (last.map smallLetter).contains '.' = last.contains '.' := by
      rw [Bool.eq_iff_iff]
      simp [smallLetter_dot]
    simp only [hl, Option.map_some, dots] at h ⊢
    by_cases dotted : last.contains '.' = true
    · rw [if_pos dotted] at h ⊢
      by_cases address : isIPv4 last = true
      · rw [if_pos address] at h
        obtain rfl := Option.some.inj h
        have zeros :
            [[char '0'], [char '0']].map (List.map smallLetter) = [[char '0'], [char '0']] := by
          decide
        rw [isIPv4_map address, if_pos address, List.map_append, zeros, List.map_dropLast]
      · rw [if_neg address] at h
        cases h
    · rw [if_neg dotted] at h ⊢
      obtain rfl := Option.some.inj h
      rfl

/-- An address and its zone. -/
theorem isIPv6_append {address : Text} (h : char '%' ∉ address) (zone : Option Text) :
    isIPv6 (address ++ zone.elim [] (char '%' :: ·)) =
      (zoneFits zone && (countedPieces (splitOn ':' address)).any piecesFit) := by
  simp only [isIPv6, cutFirst_append_elim h]

theorem isIPv6_zone_iff {address zone : Text} (h : char '%' ∉ address) :
    isIPv6 (address ++ char '%' :: zone) = true ↔
      isIPv6 address = true ∧ zone ≠ [] ∧ char '%' ∉ zone := by
  have bare : isIPv6 address = (countedPieces (splitOn ':' address)).any piecesFit := by
    simpa [zoneFits] using isIPv6_append h none
  have zoned : isIPv6 (address ++ char '%' :: zone) = _ := isIPv6_append h (some zone)
  rw [zoned, ← bare, Bool.and_eq_true, and_comm]
  simp [zoneFits]

/-- Lower case leaves an address an address. Its zone may be any. -/
theorem isIPv6_map {address : Text} (name : char '%' ∉ address) {zone : Option Text}
    (h : isIPv6 (address ++ zone.elim [] (char '%' :: ·)) = true) :
    isIPv6 (address.map smallLetter ++ zone.elim [] (char '%' :: ·)) = true := by
  have name' : char '%' ∉ address.map smallLetter := by
    simpa [smallLetter_eq_iff (d := '%') (by decide) (by decide)] using name
  rw [isIPv6_append name, Bool.and_eq_true, Option.any_eq_true_iff_get] at h
  obtain ⟨fits, present, groups⟩ := h
  have counted := countedPieces_map (Option.some_get present).symm
  rw [isIPv6_append name', splitOn_map smallLetter_colon, counted, fits]
  simpa [piecesFit_map] using groups

theorem groupsBeside_chars {side : List Text} {n : Nat} (h : groupsBeside side = some n)
    {piece : Text} (hp : piece ∈ side) : piece.all isHexDigit = true := by
  unfold groupsBeside at h
  split at h
  next =>
    obtain rfl := List.mem_singleton.mp hp
    rfl
  next =>
    split at h
    next groups =>
      have group := List.all_eq_true.mp groups piece hp
      simp only [isGroup, Bool.and_eq_true] at group
      exact group.2
    next => cases h

theorem piecesFit_chars {pieces : List Text} (h : piecesFit pieces = true) {piece : Text}
    (hp : piece ∈ pieces) : piece.all isHexDigit = true := by
  unfold piecesFit at h
  split at h
  next =>
    simp only [Bool.and_eq_true, List.all_eq_true] at h
    have group := h.2 piece hp
    simp only [isGroup, Bool.and_eq_true] at group
    exact group.2
  next i gap =>
    split at h
    next before after hb ha =>
      obtain ⟨bound, empty, -⟩ := List.findIdx?_eq_some_iff_getElem.mp gap
      have inside : i + 1 < pieces.length := by
        simp only [List.length_dropLast, List.length_drop] at bound
        omega
      have nothing : pieces[i + 1] = [] := by
        simpa [List.getElem_dropLast, Nat.add_comm 1 i] using empty
      rw [← List.take_append_drop (i + 1) pieces, List.drop_eq_getElem_cons inside,
        List.mem_append, List.mem_cons] at hp
      -- the piece at the gap is empty
      rcases hp with hp | rfl | hp
      · exact groupsBeside_chars hb hp
      · rw [nothing]
        rfl
      · exact groupsBeside_chars ha hp
    next => cases h

theorem countedPieces_chars {pieces counted : List Text} (h : countedPieces pieces = some counted)
    (groups : ∀ piece ∈ counted, piece.all isHexDigit = true) {piece : Text} (hp : piece ∈ pieces)
    {c : CodePoint} (hc : c ∈ piece) : isHexDigit c = true ∨ c = '.' := by
  unfold countedPieces at h
  cases hl : pieces.getLast? with
  | none =>
    rw [List.getLast?_eq_none_iff] at hl
    rw [hl] at hp
    cases hp
  | some last =>
    simp only [hl] at h
    by_cases dotted : last.contains '.' = true
    · rw [if_pos dotted] at h
      by_cases address : isIPv4 last = true
      · rw [if_pos address] at h
        obtain rfl := Option.some.inj h
        rw [← List.dropLast_append_getLast? last hl, List.mem_append, List.mem_singleton] at hp
        rcases hp with hp | rfl
        · exact Or.inl (List.all_eq_true.mp (groups piece (List.mem_append_left _ hp)) c hc)
        · exact (isIPv4_chars address hc).imp_left fun digit => by simp [isHexDigit, digit]
      · rw [if_neg address] at h
        cases h
    · rw [if_neg dotted] at h
      obtain rfl := Option.some.inj h
      exact Or.inl (List.all_eq_true.mp (groups piece hp) c hc)

/-- The characters of an address before its zone. -/
theorem isIPv6_chars {address : Text} (name : char '%' ∉ address) {zone : Option Text}
    (h : isIPv6 (address ++ zone.elim [] (char '%' :: ·)) = true) {c : CodePoint}
    (hc : c ∈ address) :
    isHexDigit c = true ∨ c = ':' ∨ c = '.' := by
  rw [isIPv6_append name, Bool.and_eq_true, Option.any_eq_true_iff_get] at h
  obtain ⟨-, present, groups⟩ := h
  have counted := (Option.some_get present).symm
  rcases mem_splitOn (c := ':') hc with colon | ⟨piece, hp, inside⟩
  · exact Or.inr (Or.inl colon)
  · exact (countedPieces_chars counted (fun _ => piecesFit_chars groups) hp inside).imp_right
      Or.inr

/-- The character that an address begins with. -/
theorem head?_of_isIPv6 {host : Text} (h : isIPv6 host = true) {c : CodePoint}
    (head : host.head? = some c) : isHexDigit c = true ∨ c = ':' ∨ c = '.' := by
  rcases cut : cutFirst '%' host with ⟨_ | ⟨d, address⟩, zone⟩
  · obtain ⟨rfl, percent⟩ := eq_of_cutFirst cut
    rw [isIPv6_append percent, Bool.and_eq_true] at h
    exact absurd h.2 (by decide)
  · obtain ⟨rfl, percent⟩ := eq_of_cutFirst cut
    obtain rfl : d = c := by simpa using head
    exact isIPv6_chars percent h List.mem_cons_self

/-! ## Later versions -/

theorem isFuture_iff {s : Text} : isFuture s = true ↔ ∃ version address,
    s = char 'v' :: (version ++ char '.' :: address) ∧ version ≠ [] ∧
      version.all isHexDigit = true ∧
      address ≠ [] := by
  constructor
  · intro h
    unfold isFuture at h
    split at h
    next s =>
      rcases cut : cutFirst '.' s with ⟨version, _ | address⟩
      · simp [cut] at h
      · obtain ⟨rfl, -⟩ := eq_of_cutFirst cut
        simp only [cut, Bool.and_eq_true, Bool.not_eq_true', List.isEmpty_eq_false_iff] at h
        exact ⟨version, address, rfl, h.1.1, h.1.2, h.2⟩
    next => cases h
  · rintro ⟨version, address, rfl, filled, digits, rest⟩
    have dot : char '.' ∉ version := fun mem =>
      absurd (List.all_eq_true.mp digits '.' mem) (by decide)
    simp [isFuture, cutFirst_append dot, filled, digits, rest]

/-- Lower case leaves a literal of a later version one. -/
theorem isFuture_map {name : Text} {zone : Option Text}
    (h : isFuture (name ++ zone.elim [] (char '%' :: ·)) = true) :
    isFuture (name.map smallLetter ++ zone.elim [] (char '%' :: ·)) = true := by
  obtain ⟨version, address, whole, filled, digits, rest⟩ := isFuture_iff.mp h
  rcases name with _ | ⟨c, name⟩
  · exact absurd (eq_of_cons_eq_elim whole.symm) (by decide)
  obtain ⟨rfl, same⟩ := List.cons.inj whole
  -- the dot stands in the name, since the percent sign is no digit of the version
  obtain ⟨t, rfl, after⟩ : ∃ t, name = version ++ t ∧
      char '.' :: address = t ++ zone.elim [] (char '%' :: ·) := by
    rcases List.append_eq_append_iff.mp same with ⟨t, hv, after⟩ | ⟨t, hn, after⟩
    · rcases t with _ | ⟨d, t⟩
      · exact ⟨[], by simpa using hv.symm, after.symm⟩
      · obtain rfl := eq_of_cons_eq_elim after.symm
        have percent := List.all_eq_true.mp digits '%' (by simp [hv])
        exact absurd percent (by decide)
    · exact ⟨t, hn, after⟩
  rcases t with _ | ⟨d, t⟩
  · exact absurd (eq_of_cons_eq_elim after) (by decide)
  obtain ⟨rfl, rfl⟩ := List.cons.inj after
  refine isFuture_iff.mpr ⟨version.map smallLetter,
    t.map smallLetter ++ zone.elim [] (char '%' :: ·), ?_, by simpa using filled, ?_, ?_⟩
  · have first : smallLetter 'v' = 'v' := by decide
    have dot : smallLetter '.' = '.' := by decide
    simp [first, dot]
  · simpa [List.all_map, Function.comp_def, isHexDigit_smallLetter] using digits
  · simpa using rest

end Dialer.Host
