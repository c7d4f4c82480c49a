import Dialer.Proofs.Action.Phases

/-!
# Lifetimes of sockets

Which sockets events create and close, and the shape of events in which the lifetimes of sockets
follow one another.

* `createdBy events` lists the sockets that the events create, `openAfter events k` those that the
  first `k` events create and do not close.
* `Sequential m events n held` says that the events create the sockets after `m` up to `n`, one
  after the other, and close each before the next step on anything else, except that `held` is left
  open.
* `Sequential.createdBy_eq`, `Sequential.countP_closes` and `Sequential.openAfter_length` say what
  that means for the sockets created, the closings of each and the sockets open at a time.
-/

namespace Dialer

/-! ## Creation and closing -/

/-- The number of the socket. -/
def SocketName.number : SocketName → Nat
  | plain n => n
  | tls n => n

namespace Event

/-- The socket that the event creates. -/
def created? : Event → Option Nat
  | openSocket _ created => created
  | _ => none

/-- The socket that the event is a step on. Its creation is none. -/
def socket? : Event → Option Nat
  | setOption n _ | setTimeout n _ | bind n _ | connect n _ | wrap _ n _ => some n
  | close name => some name.number
  | _ => none

/-- Whether the event closes the socket. -/
def closes (e : Event) (n : Nat) : Bool :=
  match e with
  | close name => name.number = n
  | _ => false

/-- The event is a step on the socket that does not close it. -/
structure Uses (n : Nat) (e : Event) : Prop where
  socket : e.socket? = some n
  open_after : e.closes n = false

/-- The event has nothing to do with any socket that there is. -/
structure Idle (e : Event) : Prop where
  socket : e.socket? = none
  created : e.created? = none

variable {e : Event} {m n i : Nat}

theorem created?_of_socket? (h : e.socket? = some n) : e.created? = none := by
  cases e with
  | openSocket => cases h
  | _ => rfl

theorem socket?_of_created? (h : e.created? = some n) : e.socket? = none := by
  cases e with
  | openSocket => rfl
  | _ => cases h

theorem socket?_of_closes (h : e.closes n = true) : e.socket? = some n := by
  cases e with
  | close name => exact congrArg some (of_decide_eq_true h)
  | _ => cases h

theorem eq_of_closes (h : e.closes n = true) (h' : e.closes i = true) : i = n :=
  Option.some.inj ((socket?_of_closes h').symm.trans (socket?_of_closes h))

theorem closes_of_socket?_ne (h : e.socket? ≠ some n) : e.closes n = false :=
  Bool.eq_false_iff.mpr fun closes => h (socket?_of_closes closes)

theorem closes_of_socket?_eq_none (h : e.socket? = none) : e.closes n = false :=
  closes_of_socket?_ne (by rw [h]; exact Option.some_ne_none n |>.symm)

end Event

/-- The sockets that the events create. -/
def createdBy (events : List Event) : List Nat := events.filterMap Event.created?

/-- Whether none of the events closes the socket. -/
def keepOpen (events : List Event) (n : Nat) : Bool := events.all fun e => !e.closes n

/-- The sockets that the first `k` events create and do not close. -/
def openAfter (events : List Event) (k : Nat) : List Nat :=
  (createdBy (events.take k)).filter (keepOpen (events.take k))

theorem createdBy_append (events more : List Event) :
    createdBy (events ++ more) = createdBy events ++ createdBy more := List.filterMap_append

theorem createdBy_cons_of_eq_none {e : Event} (h : e.created? = none) (events : List Event) :
    createdBy (e :: events) = createdBy events := List.filterMap_cons_none h

theorem createdBy_eq_nil {events : List Event} (h : ∀ e ∈ events, e.created? = none) :
    createdBy events = [] := List.filterMap_eq_nil_iff.mpr h

/-- Steps on a socket create none. -/
theorem createdBy_uses {n : Nat} {uses : List Event} (h : ∀ e ∈ uses, e.Uses n) :
    createdBy uses = [] := createdBy_eq_nil fun e he => Event.created?_of_socket? (h e he).socket

/-! ## Sequential lifetimes -/

/-- The events create the sockets after `m` up to `n`, each when the one before has been closed.
`held` is the last one if it is left open. -/
inductive Sequential : Nat → List Event → Nat → Option Nat → Prop
  | nil {n} : Sequential n [] n none
  | idle {m e events n held} (idle : Event.Idle e) (rest : Sequential m events n held) :
      Sequential m (e :: events) n held
  | closed {m opening uses closing events n held} (created : Event.created? opening = some (m + 1))
      (used : ∀ e ∈ uses, e.Uses (m + 1)) (close : closing.closes (m + 1) = true)
      (rest : Sequential (m + 1) events n held) :
      Sequential m (opening :: (uses ++ closing :: events)) n held
  | held {m opening uses} (created : Event.created? opening = some (m + 1))
      (used : ∀ e ∈ uses, e.Uses (m + 1)) :
      Sequential m (opening :: uses) (m + 1) (some (m + 1))

namespace Sequential

variable {m n k : Nat} {events more : List Event} {held : Option Nat}

/-! ## Sequences -/

theorem append (h : Sequential m events k none) (h' : Sequential k more n held) :
    Sequential m (events ++ more) n held := by
  generalize whole : none = gone at h
  induction h with
  | nil => exact h'
  | idle idle rest ih => exact .idle idle (ih h' whole)
  | closed created used close rest ih =>
    rw [List.cons_append, List.append_assoc, List.cons_append]
    exact .closed created used close (ih h' whole)
  | held created used => cases whole

/-- A further step on the socket that is left open. -/
theorem use {e : Event} (h : Sequential m events n (some n)) (used : e.Uses n) :
    Sequential m (events ++ [e]) n (some n) := by
  generalize whole : some n = last at h
  induction h with
  | nil => cases whole
  | idle idle rest ih => exact .idle idle (ih used whole)
  | closed created used' close rest ih =>
    rw [List.cons_append, List.append_assoc, List.cons_append]
    exact .closed created used' close (ih used whole)
  | held created used' =>
    refine .held created fun e he => ?_
    rcases List.mem_append.mp he with he | he
    · exact used' e he
    · exact List.mem_singleton.mp he ▸ used

/-- The end of the socket that is left open. -/
theorem close {e : Event} (h : Sequential m events n (some n)) (closes : e.closes n = true) :
    Sequential m (events ++ [e]) n none := by
  generalize whole : some n = last at h
  induction h with
  | nil => cases whole
  | idle idle rest ih => exact .idle idle (ih closes whole)
  | closed created used close rest ih =>
    rw [List.cons_append, List.append_assoc, List.cons_append]
    exact .closed created used close (ih closes whole)
  | held created used => exact .closed created used closes .nil

/-- Events that have nothing to do with sockets. -/
theorem of_idle (h : ∀ e ∈ events, e.Idle) : Sequential m events m none := by
  induction events with
  | nil => exact .nil
  | cons e events ih =>
    exact .idle (h e List.mem_cons_self) (ih fun e he => h e (List.mem_cons_of_mem _ he))

/-! ## What they mean -/

theorem le (h : Sequential m events n held) : m ≤ n := by
  induction h with
  | nil => exact Nat.le_refl _
  | idle _ _ ih => exact ih
  | closed _ _ _ _ ih => exact Nat.le_of_succ_le ih
  | held => exact Nat.le_succ _

/-- The socket that is left open is the last. -/
theorem held_eq (h : Sequential m events n held) : ∀ i ∈ held, i = n ∧ m < i := by
  induction h with
  | nil => exact nofun
  | idle _ _ ih => exact ih
  | closed _ _ _ _ ih =>
    intro i hi
    exact ⟨(ih i hi).1, Nat.lt_of_succ_lt (ih i hi).2⟩
  | held =>
    intro i hi
    obtain rfl := Option.some.inj hi
    exact ⟨rfl, Nat.lt_succ_self _⟩

theorem countP_closes_uses {uses : List Event} (h : ∀ e ∈ uses, e.Uses m) (i : Nat) :
    uses.countP (·.closes i) = 0 := by
  refine List.countP_eq_zero.mpr fun e he closes => ?_
  have same : some i = some m := (Event.socket?_of_closes closes).symm.trans (h e he).socket
  obtain rfl := Option.some.inj same
  exact Bool.false_ne_true ((h e he).open_after.symm.trans closes)

theorem countP_closes_cons {e : Event} (h : e.socket? = none) (i : Nat) :
    (e :: events).countP (·.closes i) = events.countP (·.closes i) := by
  refine List.countP_cons_of_neg ?_
  rw [Event.closes_of_socket?_eq_none h]
  exact Bool.false_ne_true

/-- **Each socket is closed once**, except that the one left open is not closed. -/
theorem countP_closes (h : Sequential m events n held) (i : Nat) :
    events.countP (·.closes i) = if m < i ∧ i ≤ n ∧ held ≠ some i then 1 else 0 := by
  induction h with
  | nil => rw [List.countP_nil, if_neg (by omega)]
  | idle idle rest ih => rw [countP_closes_cons idle.socket, ih]
  | @closed m opening uses closing events n held created used close rest ih =>
    have later := rest.le
    rw [countP_closes_cons (Event.socket?_of_created? created), List.countP_append,
      countP_closes_uses used, Nat.zero_add, List.countP_cons, ih]
    by_cases here : i = m + 1
    · subst here
      have open_end : held ≠ some (m + 1) := fun h => by
        have := (rest.held_eq _ h).2
        omega
      rw [if_neg (by omega), if_pos close, if_pos ⟨by omega, later, open_end⟩]
    · have other : ¬ closing.closes i = true := fun h => here (Event.eq_of_closes close h)
      have range : (m + 1 < i ∧ i ≤ n ∧ held ≠ some i) ↔ (m < i ∧ i ≤ n ∧ held ≠ some i) := by
        constructor <;> rintro ⟨first, last⟩ <;> exact ⟨by omega, last⟩
      rw [if_neg other, Nat.add_zero, if_congr range rfl rfl]
  | @held m opening uses created used =>
    rw [countP_closes_cons (Event.socket?_of_created? created), countP_closes_uses used, if_neg]
    rintro ⟨first, last, other⟩
    exact other (congrArg some (by omega))

/-! ## Created sockets -/

/-- A lifetime that has ended creates its socket. -/
theorem createdBy_lifetime {opening closing : Event} {uses : List Event}
    (created : opening.created? = some m) (used : ∀ e ∈ uses, e.Uses m)
    (close : closing.closes m = true) :
    createdBy (opening :: (uses ++ closing :: events)) = m :: createdBy events := by
  have ended : closing.created? = none := Event.created?_of_socket? (Event.socket?_of_closes close)
  rw [createdBy, List.filterMap_cons_some created, ← createdBy, createdBy_append,
    createdBy_uses used, List.nil_append, createdBy_cons_of_eq_none ended]

theorem createdBy_started {opening : Event} {uses : List Event}
    (created : opening.created? = some m) (used : ∀ e ∈ uses, e.Uses m) :
    createdBy (opening :: uses) = [m] := by
  rw [createdBy, List.filterMap_cons_some created, ← createdBy, createdBy_uses used]

/-- **The sockets are created in turn.** -/
theorem createdBy_eq (h : Sequential m events n held) :
    createdBy events = List.range' (m + 1) (n - m) := by
  induction h with
  | nil =>
    rw [Nat.sub_self, List.range'_zero]
    rfl
  | idle idle rest ih => rw [createdBy_cons_of_eq_none idle.created, ih]
  | @closed m opening uses closing events n held created used close rest ih =>
    have later := rest.le
    obtain ⟨count, hcount⟩ := Nat.exists_eq_succ_of_ne_zero (n := n - m) (by omega)
    rw [createdBy_lifetime created used close, ih, hcount, List.range'_succ,
      show n - (m + 1) = count by omega]
  | @held m opening uses created used =>
    rw [createdBy_started created used, Nat.add_sub_cancel_left]
    rfl

theorem mem_createdBy_iff (h : Sequential m events n held) {i : Nat} :
    i ∈ createdBy events ↔ m < i ∧ i ≤ n := by
  have := h.le
  rw [h.createdBy_eq, List.mem_range'_1]
  omega

theorem countP_closes_of_mem (h : Sequential m events n held) {i : Nat}
    (created : i ∈ createdBy events) :
    events.countP (·.closes i) = if held = some i then 0 else 1 := by
  obtain ⟨first, last⟩ := h.mem_createdBy_iff.mp created
  rw [h.countP_closes i]
  by_cases left : held = some i
  · rw [if_pos left, if_neg fun range => range.2.2 left]
  · rw [if_neg left, if_pos ⟨first, last, left⟩]

theorem mem_createdBy_of_held {i : Nat} (h : Sequential m events n (some i)) :
    i ∈ createdBy events := by
  obtain ⟨last, later⟩ := h.held_eq i rfl
  exact h.mem_createdBy_iff.mpr ⟨later, last.le⟩

/-! ## Open sockets -/

/-- Of the sockets that some events create, later events leave no more open. -/
theorem length_filter_le_openAfter {whole : List Event} {j k : Nat}
    (taken : events.take j ⊆ whole.take k) :
    ((createdBy (events.take j)).filter (keepOpen (whole.take k))).length ≤
      (openAfter events j).length := by
  refine List.Sublist.length_le (List.monotone_filter_right _ fun n all => ?_)
  exact List.all_eq_true.mpr fun e he => List.all_eq_true.mp all e (taken he)

/-- **At most one socket is open at a time.** -/
theorem openAfter_length (h : Sequential m events n held) (k : Nat) :
    (openAfter events k).length ≤ 1 := by
  -- events that end within a lifetime have created its socket last
  have within {opening : Event} {m : Nat} {uses : List Event} (created : opening.created? = some m)
      (used : ∀ e ∈ uses, e.Uses m) (kept : Nat → Bool) (k : Nat) :
      ((createdBy (opening :: uses.take k)).filter kept).length ≤ 1 := by
    rw [createdBy_started created fun e he => used e (List.mem_of_mem_take he)]
    exact List.length_filter_le _ _
  induction h generalizing k with
  | nil => simp [openAfter, createdBy]
  | @idle m e events n held idle rest ih =>
    cases k with
    | zero => simp [openAfter, createdBy]
    | succ k =>
      rw [openAfter, List.take_succ_cons, createdBy_cons_of_eq_none idle.created,
        ← List.take_succ_cons]
      refine (length_filter_le_openAfter ?_).trans (ih k)
      exact List.subset_cons_self e (events.take k)
  | @closed m opening uses closing events n held created used close rest ih =>
    cases k with
    | zero => simp [openAfter, createdBy]
    | succ k =>
      rcases Nat.lt_or_ge uses.length k with ended | short
      · obtain ⟨j, hj⟩ := Nat.exists_eq_succ_of_ne_zero (n := k - uses.length) (by omega)
        have take : (opening :: (uses ++ closing :: events)).take (k + 1) =
            opening :: (uses ++ closing :: events.take j) := by
          rw [List.take_succ_cons, List.take_append, hj, List.take_succ_cons,
            List.take_of_length_le (by omega)]
        have gone : ¬ keepOpen ((opening :: (uses ++ closing :: events)).take (k + 1)) (m + 1) =
            true := by
          rw [take]
          simp [keepOpen, close]
        have lifetime : createdBy ((opening :: (uses ++ closing :: events)).take (k + 1)) =
            (m + 1) :: createdBy (events.take j) := by
          rw [take, createdBy_lifetime created used close]
        rw [openAfter, lifetime, List.filter_cons_of_neg gone]
        refine (length_filter_le_openAfter ?_).trans (ih j)
        rw [take]
        intro e he
        simp [he]
      · rw [openAfter, List.take_succ_cons, List.take_append_of_le_length short]
        exact within created used _ k
  | held created used =>
    cases k with
    | zero => simp [openAfter, createdBy]
    | succ k => exact within created used _ k

end Sequential

end Dialer
