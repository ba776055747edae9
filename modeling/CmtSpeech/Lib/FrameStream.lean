import CmtSpeech.Lib.Lts
import Mathlib.Data.Nat.ModEq

/-!
# A stream of frames read from slots that are written over

A writer completes frames `0, 1, 2, ...` in `k` slots, one after the other, and goes on
whether or not they are read.  The reader is told of the frames in order, some time after
they are complete, and takes them one by one.  When it finds that the writer is `k` or more
frames ahead, the slots it wanted are being written over, and it goes on with the last frame
it was told of.  The counts grow for ever; what is kept of a count is its residue modulo a
boundary.

## Main definitions

* `FrameStream` — the counts of a stream.
* `FrameStream.read` — the stream as a transition system, with the frames taken.

## Main results

* `FrameStream.next_le_exec`, `FrameStream.exec_next_of_trace_nil` — frames are taken in
  order, and passed over only when one is taken.
* `FrameStream.fresh_iff` — when the frame taken is not being written over.
* `FrameStream.sub_mod_of_le`, `FrameStream.sub_mod_succ` — the difference of two counts from
  their residues.
-/

/-- A stream: how many frames are complete, how many the reader was told of, and the next
frame it wants. -/
structure FrameStream where
  completed : ℕ
  notified : ℕ
  next : ℕ

namespace FrameStream

/-- What happens to a stream: a frame is completed, the reader is told of one, or takes one; or
nothing that concerns the stream. -/
inductive Input where
  | complete
  | notify
  | take
  | idle

/-- A frame taken; `resync` if frames were given up for it. -/
structure Handout where
  frame : ℕ
  resync : Bool

/-- Nothing has happened: no frame has been completed, notified or taken. -/
def start : FrameStream := ⟨0, 0, 0⟩

/-- Taking a frame of a stream with `k` slots: none if all that the reader was told of are taken;
the last of them if the one that is wanted may be overwritten by now; and otherwise the one that
is wanted. -/
def take (k : ℕ) (s : FrameStream) : FrameStream × List Handout :=
  if s.next = s.notified then (s, [])
  else if k ≤ s.completed - s.next then
    ({ s with next := s.notified }, [⟨s.notified - 1, true⟩])
  else ({ s with next := s.next + 1 }, [⟨s.next, false⟩])

/-- Reading a stream with `k` slots: frames are completed on one side and taken on the other. -/
def read (k : ℕ) : Lts FrameStream Input Handout where
  init s := s = start
  next s
    | .complete => ({ s with completed := s.completed + 1 }, [])
    | .notify => ({ s with notified := s.notified + 1 }, [])
    | .take => s.take k
    | .idle => (s, [])

/-- A frame is complete before the reader is told of it, and taken after.  The counts of a stream
keep this order, whatever happens to it. -/
structure Ordered (s : FrameStream) : Prop where
  next_le : s.next ≤ s.notified
  notified_le : s.notified ≤ s.completed

/-- The reader is told of complete frames only.  This is what the writer guarantees; nothing is
assumed of the reader. -/
def Input.Allowed (s : FrameStream) : Input → Prop
  | .notify => s.notified < s.completed
  | _ => True

section
variable {k : ℕ} {s : FrameStream}

theorem ordered_start : start.Ordered := ⟨le_rfl, le_rfl⟩

theorem take_of_eq (h : s.next = s.notified) : s.take k = (s, []) := if_pos h

theorem take_of_late (h : s.next ≠ s.notified) (hk : k ≤ s.completed - s.next) :
    s.take k = ({ s with next := s.notified }, [⟨s.notified - 1, true⟩]) := by
  rw [take, if_neg h, if_pos hk]

theorem take_of_early (h : s.next ≠ s.notified) (hk : s.completed - s.next < k) :
    s.take k = ({ s with next := s.next + 1 }, [⟨s.next, false⟩]) := by
  rw [take, if_neg h, if_neg (not_le.mpr hk)]

/-- Nothing is taken when every frame the reader was told of is taken or given up. -/
theorem take_eq_nil_iff : (s.take k).2 = [] ↔ s.next = s.notified := by
  unfold take
  split
  · next heq => exact iff_of_true rfl heq
  · next hne => split <;> exact iff_of_false (by simp) hne

theorem Ordered.next_read (h : s.Ordered) {i : Input} (hi : i.Allowed s) :
    ((read k).next s i).1.Ordered := by
  obtain ⟨hn, hc⟩ := h
  cases i with
  | complete => exact ⟨hn, hc.trans (Nat.le_succ _)⟩
  | notify => exact ⟨hn.trans (Nat.le_succ _), hi⟩
  | take =>
    show (s.take k).1.Ordered
    unfold take
    split
    · exact ⟨hn, hc⟩
    · next hne =>
      split
      · exact ⟨le_rfl, hc⟩
      · exact ⟨lt_of_le_of_ne hn hne, hc⟩
  | idle => exact ⟨hn, hc⟩

/-! ### The frames taken -/

/-- A frame taken is one the reader was told of and has not taken yet, and the next one
wanted follows it. -/
theorem Ordered.handout (h : s.Ordered) {o : Handout} (ho : o ∈ (s.take k).2) :
    s.next ≤ o.frame ∧ o.frame < s.notified ∧ (s.take k).1.next = o.frame + 1 := by
  obtain ⟨hn, -⟩ := h
  by_cases heq : s.next = s.notified
  · rw [take_of_eq heq] at ho
    simp at ho
  · by_cases hk : k ≤ s.completed - s.next
    · rw [take_of_late heq hk] at ho ⊢
      rw [List.mem_singleton.mp ho]
      dsimp only
      omega
    · rw [take_of_early heq (not_le.mp hk)] at ho ⊢
      rw [List.mem_singleton.mp ho]
      dsimp only
      omega

/-- Unless frames are given up, the frame taken is the one wanted. -/
theorem handout_frame {o : Handout} (ho : o ∈ (s.take k).2) (hr : o.resync = false) :
    o.frame = s.next := by
  unfold take at ho
  split at ho
  · simp at ho
  · split at ho
    · rw [List.mem_singleton.mp ho] at hr
      simp at hr
    · rw [List.mem_singleton.mp ho]

/-- Frames are given up when the writer is a whole round ahead. -/
theorem handout_resync {o : Handout} (ho : o ∈ (s.take k).2) :
    o.resync = true ↔ k ≤ s.completed - s.next := by
  unfold take at ho
  split at ho
  · simp at ho
  · split at ho
    · next hk =>
      rw [List.mem_singleton.mp ho]
      exact iff_of_true rfl hk
    · next hk =>
      rw [List.mem_singleton.mp ho]
      exact iff_of_false (by simp) hk

/-- **The frame taken is fresh**, its slot not written over, exactly when the reader has been
told of almost everything the writer has completed. -/
theorem Ordered.fresh_iff (h : s.Ordered) {o : Handout} (ho : o ∈ (s.take k).2) :
    s.completed - o.frame < k ↔ s.completed + 1 - s.notified < k := by
  obtain ⟨hn, hc⟩ := h
  by_cases heq : s.next = s.notified
  · rw [take_of_eq heq] at ho
    simp at ho
  · by_cases hk : k ≤ s.completed - s.next
    · rw [take_of_late heq hk] at ho
      rw [List.mem_singleton.mp ho]
      dsimp only
      omega
    · rw [take_of_early heq (not_le.mp hk)] at ho
      rw [List.mem_singleton.mp ho]
      dsimp only
      omega

/-! ### Runs -/

/-- The next frame wanted moves with the frames taken alone. -/
theorem next_read_of_nil {i : Input} (h : ((read k).next s i).2 = []) :
    ((read k).next s i).1.next = s.next := by
  cases i with
  | take =>
    show (s.take k).1.next = s.next
    have h' : (s.take k).2 = [] := h
    unfold take at h' ⊢
    split
    · rfl
    · next hne =>
      rw [if_neg hne] at h'
      split at h' <;> simp at h'
  | _ => rfl

theorem exec_next_of_trace_nil {is : List Input} (h : (read k).trace s is = []) :
    ((read k).exec s is).next = s.next := by
  induction is generalizing s with
  | nil => rfl
  | cons i is ih =>
    rw [Lts.trace_cons, List.append_eq_nil_iff] at h
    rw [Lts.exec_cons, ih h.2, next_read_of_nil h.1]

/-- The reader never goes back: what it wants next is at least what it wanted before. -/
theorem Ordered.next_le_exec (h : s.Ordered) {is : List Input}
    (hi : (read k).Along (fun s i => i.Allowed s) s is) : s.next ≤ ((read k).exec s is).next := by
  induction is generalizing s with
  | nil => exact le_rfl
  | cons i is ih =>
    refine le_trans ?_ (ih (h.next_read hi.1) hi.2)
    cases i with
    | take =>
      show s.next ≤ (s.take k).1.next
      unfold take
      split
      · exact le_rfl
      · split
        · exact h.next_le
        · exact Nat.le_succ _
    | _ => exact le_rfl

/-- What is not wanted any more was taken, or passed over by a frame taken later. -/
theorem Ordered.taken_iff (h : s.Ordered) {is : List Input}
    (hi : (read k).Along (fun s i => i.Allowed s) s is) {f : ℕ} (hf : s.next ≤ f) :
    f < ((read k).exec s is).next ↔ ∃ o ∈ (read k).trace s is, f ≤ o.frame := by
  induction is generalizing s with
  | nil => simpa using hf
  | cons i is ih =>
    have hs := h.next_read (k := k) hi.1
    rw [Lts.exec_cons, Lts.trace_cons]
    by_cases hlt : ((read k).next s i).1.next ≤ f
    · rw [ih hs hi.2 hlt]
      constructor
      · rintro ⟨o, ho, hle⟩
        exact ⟨o, List.mem_append_right _ ho, hle⟩
      · rintro ⟨o, ho, hle⟩
        rcases List.mem_append.mp ho with ho | ho
        · -- a frame taken in this step comes before the next one wanted
          cases i with
          | take =>
            have hnext := (h.handout ho).2.2
            have hlt' : (s.take k).1.next ≤ f := hlt
            omega
          | _ => simp [read] at ho
        · exact ⟨o, ho, hle⟩
    -- The step itself passes `f`: it takes a frame, and one from `f` on.
    · have hle := hs.next_le_exec hi.2
      refine iff_of_true (by omega) ?_
      cases hnil : ((read k).next s i).2 with
      | nil =>
        rw [next_read_of_nil hnil] at hlt
        exact absurd hf hlt
      | cons o os =>
        refine ⟨o, List.mem_append_left _ List.mem_cons_self, ?_⟩
        cases i with
        | take =>
          have ho : o ∈ (s.take k).2 := by
            show o ∈ ((read k).next s .take).2
            rw [hnil]
            exact List.mem_cons_self
          have hnext := (h.handout ho).2.2
          have hlt' : ¬ (s.take k).1.next ≤ f := hlt
          omega
        | _ => simp [read] at hnil

end

/-! ### Counts and their residues -/

section
variable {b n a : ℕ}

/-- Residues of counts less than the boundary apart tell how far apart the counts are. -/
theorem sub_mod_of_le (h : a ≤ n) (hb : n - a < b) : (b + n % b - a % b) % b = n - a := by
  have hpos : 0 < b := by omega
  have ha : a % b < b := Nat.mod_lt a hpos
  have hmod : (b + n % b - a % b) + a ≡ (n - a) + a [MOD b] := by
    calc (b + n % b - a % b) + a ≡ (b + n % b - a % b) + a % b [MOD b] :=
          (Nat.mod_modEq a b).symm.add_left _
      _ = b + n % b := by omega
      _ ≡ 0 + n [MOD b] := by
          refine Nat.ModEq.add ?_ (Nat.mod_modEq n b)
          exact (Nat.modEq_zero_iff_dvd).mpr dvd_rfl
      _ = (n - a) + a := by omega
  have hcancel : (b + n % b - a % b) ≡ n - a [MOD b] := Nat.ModEq.add_right_cancel' a hmod
  rw [hcancel, Nat.mod_eq_of_lt hb]

/-- The residue of a count one ahead: the difference wraps to the largest residue, which stands
for none. -/
theorem sub_mod_succ (hb : 1 < b) : (b + n % b - (n + 1) % b) % b = b - 1 := by
  have hn : n % b < b := Nat.mod_lt n (by omega)
  by_cases hlast : n % b + 1 = b
  · have hz : (n + 1) % b = 0 := by
      rw [← Nat.mod_add_mod, hlast, Nat.mod_self]
    rw [hz]
    have hsum : b + n % b - 0 = (b - 1) + b := by omega
    rw [hsum, Nat.add_mod_right, Nat.mod_eq_of_lt (by omega)]
  · have hs : (n + 1) % b = n % b + 1 := by
      rw [← Nat.mod_add_mod, Nat.mod_eq_of_lt (by omega)]
    rw [hs]
    have hsub : b + n % b - (n % b + 1) = b - 1 := by omega
    rw [hsub, Nat.mod_eq_of_lt (by omega)]

end

end FrameStream

/-- Residues in machine words: with a boundary of at most half the range nothing overflows. -/
theorem BitVec.toNat_position {w : ℕ} {b p a : BitVec w} (hb : 2 * b.toNat ≤ 2 ^ w)
    (hp : p.toNat < b.toNat) (ha : a.toNat < b.toNat) :
    ((b + p - a) % b).toNat = (b.toNat + p.toNat - a.toNat) % b.toNat := by
  have hadd : (b + p).toNat = b.toNat + p.toNat := BitVec.toNat_add_of_lt (by omega)
  have hle : a ≤ b + p := by
    rw [BitVec.le_def, hadd]
    omega
  rw [BitVec.toNat_umod, BitVec.toNat_sub_of_le hle, hadd]
