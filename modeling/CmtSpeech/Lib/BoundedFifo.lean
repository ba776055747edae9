import CmtSpeech.Lib.Lts
import Mathlib.Algebra.Ring.Nat
import Mathlib.Data.Nat.ModEq

/-!
# Bounded queues

A queue of at most `cap` values, which loses its oldest value when one more is appended to
a full one, and its representation in a circle of cells.  A circle of `n` cells with a head
and a tail can tell an empty queue from a full one only if it keeps one cell open, so it
holds the queue of capacity `n - 1`.

## Main definitions

* `BoundedFifo` — the queue as a transition system.
* `InCells` — a queue kept in cells, from the head on.

## Main results

* `InCells.push`, `InCells.pop` — writing the cell at the tail, and moving the head.
* `InCells.distance`, `InCells.eq_nil_iff`, `InCells.full_iff` — what head and tail say about
  the queue.
-/

/-- An operation on a queue of elements of `α`, as its user calls it. -/
inductive FifoOp (α : Type*) where
  | enqueue (a : α)
  | dequeue

/-- What an operation gives back: whether a value was lost for the one that was appended, or the
value that was the first, if there was one. -/
inductive FifoRes (α : Type*) where
  | appended
  /-- Appended, but the oldest value is lost. -/
  | lost
  | empty
  | removed (a : α)

/-- The queue of at most `cap` values.  A value that finds it full takes its place at the end, and
the oldest one is lost. -/
def BoundedFifo (α : Type*) (cap : ℕ) : Lts (List α) (FifoOp α) (FifoRes α) where
  init q := q = []
  next
    | q, .enqueue a => if q.length < cap then (q ++ [a], [.appended]) else (q.tail ++ [a], [.lost])
    | [], .dequeue => ([], [.empty])
    | a :: q, .dequeue => (q, [.removed a])

namespace BoundedFifo

variable {α : Type*} {cap : ℕ}

theorem next_enqueue_of_lt {q : List α} (h : q.length < cap) (a : α) :
    (BoundedFifo α cap).next q (.enqueue a) = (q ++ [a], [.appended]) := if_pos h

theorem next_enqueue_of_le {q : List α} (h : cap ≤ q.length) (a : α) :
    (BoundedFifo α cap).next q (.enqueue a) = (q.tail ++ [a], [.lost]) := if_neg h.not_gt

theorem length_next (hcap : 0 < cap) {q : List α} (h : q.length ≤ cap) (op : FifoOp α) :
    ((BoundedFifo α cap).next q op).1.length ≤ cap := by
  cases op with
  | enqueue a =>
    by_cases hq : q.length < cap
    · rw [next_enqueue_of_lt hq, List.length_append, List.length_singleton]
      exact hq
    · rw [next_enqueue_of_le (not_lt.mp hq), List.length_append, List.length_tail,
        List.length_singleton]
      omega
  | dequeue =>
    cases q with
    | nil => exact h
    | cons a q => exact (Nat.le_succ _).trans h

/-- A queue never holds more than its capacity, whatever the operations are. -/
theorem length_exec (hcap : 0 < cap) (ops : List (FifoOp α)) :
    ((BoundedFifo α cap).exec [] ops).length ≤ cap :=
  (BoundedFifo α cap).exec_invariant (I := fun q => q.length ≤ cap) (P := fun _ _ => True)
    (fun _ op h _ => length_next hcap h op) (Nat.zero_le cap) (Lts.along_true _ _ _)

end BoundedFifo

/-! ### A circle of cells -/

/-- A queue of less than `n` values, kept in `n` cells from cell `head` on. -/
structure InCells {α : Type*} (cell : ℕ → α) (n head : ℕ) (q : List α) : Prop where
  head_lt : head < n
  room : q.length < n
  cell_eq : ∀ i (hi : i < q.length), cell ((head + i) % n) = q[i]

namespace InCells

variable {α : Type*} {cell cell' : ℕ → α} {n head : ℕ} {q : List α} {a : α}

theorem nil (hn : 0 < n) (cell : ℕ → α) : InCells cell n 0 [] where
  head_lt := hn
  room := hn
  cell_eq i hi := absurd hi (Nat.not_lt_zero i)

/-- Different places of the circle are different cells. -/
theorem place_inj {i j : ℕ} (hi : i < n) (hj : j < n) (h : (head + i) % n = (head + j) % n) :
    i = j := by
  have hmod : i ≡ j [MOD n] := Nat.ModEq.add_left_cancel' head h
  exact Nat.ModEq.eq_of_lt_of_lt hmod hi hj

/-- The cell at the tail may hold anything, as it is not one of the queue. -/
theorem keep (h : InCells cell n head q)
    (hkeep : ∀ s < n, s ≠ (head + q.length) % n → cell' s = cell s) : InCells cell' n head q := by
  have hn : 0 < n := Nat.zero_lt_of_lt h.room
  refine ⟨h.head_lt, h.room, ?_⟩
  intro i hi
  have hne : (head + i) % n ≠ (head + q.length) % n := by
    intro heq
    have hi' : i = q.length := place_inj (hi.trans h.room) h.room heq
    omega
  rw [hkeep _ (Nat.mod_lt _ hn) hne]
  exact h.cell_eq i hi

/-- Writing the cell at the tail appends, as long as there is another cell to be the tail after
it. -/
theorem push (h : InCells cell n head q) (hroom : q.length + 1 < n)
    (htail : cell' ((head + q.length) % n) = a)
    (hkeep : ∀ s < n, s ≠ (head + q.length) % n → cell' s = cell s) :
    InCells cell' n head (q ++ [a]) := by
  refine ⟨h.head_lt, by rwa [List.length_append, List.length_singleton], ?_⟩
  intro i hi
  by_cases hlt : i < q.length
  · rw [List.getElem_append_left hlt]
    exact (h.keep hkeep).cell_eq i hlt
  · have hi' : i = q.length := by
      rw [List.length_append, List.length_singleton] at hi
      omega
    subst hi'
    rw [List.getElem_concat_length rfl]
    exact htail

/-- The oldest value is the one at the head, where the reader finds it. -/
theorem cell_head (h : InCells cell n head (a :: q)) : cell head = a := by
  have h₀ := h.cell_eq 0 (Nat.succ_pos _)
  rwa [Nat.add_zero, Nat.mod_eq_of_lt h.head_lt] at h₀

/-- Moving the head removes the oldest value, and nothing is written for it. -/
theorem pop (h : InCells cell n head (a :: q)) : InCells cell n ((head + 1) % n) q := by
  have hroom : q.length + 1 < n := h.room
  refine ⟨Nat.mod_lt _ (by omega), by omega, ?_⟩
  intro i hi
  have hnext := h.cell_eq (i + 1) (Nat.succ_lt_succ hi)
  rw [List.getElem_cons_succ] at hnext
  rw [Nat.mod_add_mod, add_assoc, add_comm 1 i, hnext]

/-- The tail stays where it is when the head moves. -/
theorem tail_pop (n head : ℕ) (a : α) (q : List α) :
    ((head + 1) % n + q.length) % n = (head + (a :: q).length) % n := by
  rw [Nat.mod_add_mod, List.length_cons, add_assoc, add_comm 1]

theorem tail_push (n head : ℕ) (q : List α) (a : α) :
    ((head + q.length) % n + 1) % n = (head + (q ++ [a]).length) % n := by
  rw [Nat.mod_add_mod, List.length_append, List.length_singleton, add_assoc]

/-- The queue is empty when the tail has come to the head. -/
theorem eq_nil_iff (h : InCells cell n head q) : (head + q.length) % n = head ↔ q = [] := by
  constructor
  · intro ht
    have ht₀ : (head + q.length) % n = (head + 0) % n := by
      rw [ht, Nat.add_zero, Nat.mod_eq_of_lt h.head_lt]
    exact List.length_eq_zero_iff.mp (place_inj h.room (Nat.zero_lt_of_lt h.room) ht₀)
  · rintro rfl
    exact Nat.mod_eq_of_lt h.head_lt

/-- From the head to the tail it is as far as the queue is long. -/
theorem distance (h : InCells cell n head q) :
    ((head + q.length) % n + n - head) % n = q.length := by
  have hhead := h.head_lt
  have hroom := h.room
  rcases Nat.lt_or_ge (head + q.length) n with hlt | hge
  · have heq : head + q.length + n - head = q.length + n := by omega
    rw [Nat.mod_eq_of_lt hlt, heq, Nat.add_mod_right, Nat.mod_eq_of_lt hroom]
  · have hw : (head + q.length) % n = head + q.length - n := by
      rw [Nat.mod_eq_sub_mod hge, Nat.mod_eq_of_lt (by omega)]
    have heq : head + q.length - n + n - head = q.length := by omega
    rw [hw, heq, Nat.mod_eq_of_lt hroom]

/-- The queue is full when only the cell before the head is open. -/
theorem full_iff (h : InCells cell n head q) :
    ((head + q.length) % n + 1) % n = head ↔ q.length + 1 = n := by
  have hn : 0 < n := Nat.zero_lt_of_lt h.room
  rw [Nat.mod_add_mod, add_assoc]
  constructor
  · intro ht
    by_contra hne
    have hlt : q.length + 1 < n := lt_of_le_of_ne h.room hne
    have ht₀ : (head + (q.length + 1)) % n = (head + 0) % n := by
      rw [ht, Nat.add_zero, Nat.mod_eq_of_lt h.head_lt]
    exact absurd (place_inj hlt hn ht₀) (Nat.succ_ne_zero _)
  · intro heq
    rw [heq, Nat.add_mod_right, Nat.mod_eq_of_lt h.head_lt]

end InCells
