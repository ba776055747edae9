import CmtSpeech.DlStream
import CmtSpeech.Ownership

/-!
# Overrun marks

A notification marks the slot of its frame, or the next one, as overrun, and the mark is reported
when the buffer of the slot is taken back.  The slot need not be held when it is marked, and when
its frame is passed over the mark stays for the frame after that.

* `MarksXrun` — a notification marks a slot.
* `Ledger` — which frame a buffer holds, and which notification has marked it.
* `ChargedRightly` — an overrun that is reported was marked for the frame in the buffer.
* `ChargesOldMark` — the buffer was given out with the mark of an earlier frame.

## Main result

* `chargedRightly_iff`
-/

namespace CmtSpeech

/-! ### Marks -/

/-- The slot is marked as overrun: when the buffer is given back, the call reports that the
application was too late. -/
def BufState.Xrun (b : BufState) (i : Fin dlSlots) : Prop := b.flags (.dl i) &&& bufXrun ≠ 0

instance (b : BufState) (i : Fin dlSlots) : Decidable (b.Xrun i) :=
  inferInstanceAs (Decidable (_ ≠ _))

/-- The position of the frame that is announced. -/
def Cmd.rxPtr (cmd : Cmd) : ℤ := ((cmd.word &&& 0xffffff).toNat : ℤ)

/-- The positions after a notification, from which the library computes how far the driver is
ahead. -/
def Machine.announced (m : Machine) (cmd : Cmd) : Machine :=
  m.modBuf fun b =>
    { b with rxPtrHw := cmd.rxPtr, rxPtrAppl := if b.rxPtrAppl < 0 then cmd.rxPtr else b.rxPtrAppl }

/-- The driver has overrun the slot of the frame, or may overrun a slot that is held.  These are
the slots that the notification `cmd` marks. -/
def MarksXrun (m : Machine) (cmd : Cmd) (i : Fin dlSlots) : Prop :=
  i = dlSlotOf cmd.rxPtr ∧ m.d.rollingRxPtr = true ∧ privRxHwDelay (m.announced cmd) ≥ dlSlots ∨
    (i = dlSlotOf cmd.rxPtr ∨ i = dlSlotOf cmd.rxPtr + 1) ∧ m.buf.Locked (.dl i)

instance (m : Machine) (cmd : Cmd) (i : Fin dlSlots) : Decidable (MarksXrun m cmd i) :=
  inferInstanceAs (Decidable (_ ∨ _))

namespace BufState

theorem xrun_set : ∀ x : BitVec 4, (x ||| bufXrun) &&& bufXrun ≠ 0 := by decide

theorem xrun_clear : ∀ x : BitVec 4, (x &&& ~~~bufXrun) &&& bufXrun = 0 := by decide

theorem xrun_of_lock : ∀ x : BitVec 4, (x ||| bufLocked) &&& bufXrun = x &&& bufXrun := by decide

theorem xrun_of_unlock : ∀ x : BitVec 4, (x &&& ~~~bufLocked) &&& bufXrun = x &&& bufXrun := by
  decide

variable {b b' : BufState}

theorem xrun_mark (s i : Fin dlSlots) :
    (b.mapFlags (.dl s) (· ||| bufXrun)).Xrun i ↔ i = s ∨ b.Xrun i := by
  rw [Xrun, flags_mapFlags]
  by_cases h : i = s
  · rw [if_pos (congrArg Slot.dl h)]
    exact iff_of_true (xrun_set _) (Or.inl h)
  · rw [if_neg fun he => h (Slot.dl.inj he), or_iff_right h, Xrun]

theorem xrun_unmark (s i : Fin dlSlots) :
    (b.mapFlags (.dl s) (· &&& ~~~bufXrun)).Xrun i ↔ i ≠ s ∧ b.Xrun i := by
  rw [Xrun, flags_mapFlags]
  by_cases h : i = s
  · rw [if_pos (congrArg Slot.dl h)]
    exact iff_of_false (not_not.mpr (xrun_clear _)) fun he => he.1 h
  · rw [if_neg fun he => h (Slot.dl.inj he), and_iff_right h, Xrun]

/-- Another mark of a descriptor changes, and the overrun mark does not. -/
theorem xrun_mapFlags (s : Slot) (i : Fin dlSlots) {f : BitVec 4 → BitVec 4}
    (hf : ∀ x, f x &&& bufXrun = x &&& bufXrun) : (b.mapFlags s f).Xrun i ↔ b.Xrun i := by
  rw [Xrun, flags_mapFlags]
  by_cases h : Slot.dl i = s
  · rw [if_pos h, hf, ← h, Xrun]
  · rw [if_neg h, Xrun]

theorem xrun_congr (h : b'.dlbufdesc = b.dlbufdesc) (i : Fin dlSlots) : b'.Xrun i ↔ b.Xrun i := by
  rw [Xrun, flags, h, Xrun, flags]

end BufState

/-! ### Operations of the data path -/

section
variable (k : Kernel) (m : Machine) (i : Fin dlSlots)

theorem xrun_markXrun (c : Machine → Bool) (s : Fin dlSlots) (r : BitVec 4 × Machine) :
    (markXrun c s r).2.buf.Xrun i ↔ (i = s ∧ c r.2 = true) ∨ r.2.buf.Xrun i := by
  unfold markXrun
  split
  · next hc =>
    rw [and_iff_left hc]
    exact BufState.xrun_mark s i
  · next hc => exact (or_iff_right fun h => hc h.2).symm

theorem locked_markXrun (c : Machine → Bool) (s t : Fin dlSlots) (r : BitVec 4 × Machine) :
    (markXrun c s r).2.buf.Locked (.dl t) ↔ r.2.buf.Locked (.dl t) :=
  (marks_markXrun c s r).1.locked _

/-- A notification marks slots, and leaves the other marks alone. -/
theorem xrun_handleInboundRxDataReceived (cmd : Cmd) :
    (handleInboundRxDataReceived cmd m).2.buf.Xrun i ↔ MarksXrun m cmd i ∨ m.buf.Xrun i := by
  have hlocked (m : Machine) (t : Fin dlSlots) :
      decide ((m.buf.dlbufdesc t).flags &&& bufLocked ≠ 0) = true ↔ m.buf.Locked (.dl t) :=
    decide_eq_true_iff
  have hlate (m : Machine) : (m.d.rollingRxPtr && decide (privRxHwDelay m ≥ dlSlots)) = true ↔
      m.d.rollingRxPtr = true ∧ privRxHwDelay m ≥ dlSlots := by
    rw [Bool.and_eq_true, decide_eq_true_iff]
  have hbuf : ((m.announced cmd).buf.Xrun i ↔ m.buf.Xrun i) ∧
      ∀ t, ((m.announced cmd).buf.Locked (.dl t) ↔ m.buf.Locked (.dl t)) :=
    ⟨Iff.rfl, fun _ => Iff.rfl⟩
  -- The slot of the frame announced, the one after it, and the slot of the frame when the whole
  -- ring has been lost.
  have hmarks : (handleInboundRxDataReceived cmd m).2.buf.Xrun i ↔
      i = dlSlotOf cmd.rxPtr ∧ (m.announced cmd).buf.Locked (.dl (dlSlotOf cmd.rxPtr)) ∨
      i = dlSlotOf cmd.rxPtr + 1 ∧ (m.announced cmd).buf.Locked (.dl (dlSlotOf cmd.rxPtr + 1)) ∨
      i = dlSlotOf cmd.rxPtr ∧ m.d.rollingRxPtr = true ∧
        privRxHwDelay (m.announced cmd) ≥ dlSlots ∨
      (m.announced cmd).buf.Xrun i := by
    unfold handleInboundRxDataReceived
    dsimp only
    generalize hr : markXrun _ _ (markXrun _ _ (markXrun _ _ _)) = r
    have hx : (r.2.modBuf fun b => { b with ulErrors := 0 }).buf.Xrun i ↔ r.2.buf.Xrun i :=
      BufState.xrun_congr rfl i
    rw [hx, ← hr, xrun_markXrun, xrun_markXrun, xrun_markXrun, hlocked, hlocked, hlate,
      locked_markXrun, locked_markXrun, locked_markXrun]
    exact Iff.rfl
  unfold MarksXrun
  rw [hmarks]
  rw [hbuf.2, hbuf.2, hbuf.1]
  constructor
  · rintro (⟨rfl, hl⟩ | ⟨rfl, hl⟩ | hc | hx)
    · exact Or.inl (Or.inr ⟨Or.inl rfl, hl⟩)
    · exact Or.inl (Or.inr ⟨Or.inr rfl, hl⟩)
    · exact Or.inl (Or.inl hc)
    · exact Or.inr hx
  · rintro ((hc | ⟨rfl | rfl, hl⟩) | hx)
    · exact Or.inr (Or.inr (Or.inl hc))
    · exact Or.inl ⟨rfl, hl⟩
    · exact Or.inr (Or.inl ⟨rfl, hl⟩)
    · exact Or.inr (Or.inr (Or.inr hx))

/-- A buffer that is given out keeps its mark, also one that was set for the frame before. -/
theorem xrun_dlBufferAcquire (buf : Bool) :
    (dlBufferAcquire buf m).2.buf.Xrun i ↔ m.buf.Xrun i := by
  -- A slot is given out with its lock set; the mark it had stays.
  have hacquire (m : Machine) (s : Fin dlSlots) :
      (dlBufferAcquire.acquire buf m s).2.buf.Xrun i ↔ m.buf.Xrun i := by
    have hbump : (privBumpRxPtrAppl m).buf.Xrun i ↔ m.buf.Xrun i := BufState.xrun_congr rfl i
    have hlock (b' : BufState) (hd : b'.dlbufdesc = Function.update m.buf.dlbufdesc s
        ⟨(b'.dlbufdesc s).bd, (m.buf.dlbufdesc s).flags ||| bufLocked⟩) :
        b'.Xrun i ↔ m.buf.Xrun i := by
      rw [BufState.Xrun, BufState.flags, hd]
      by_cases hi : i = s
      · rw [hi, Function.update_self, BufState.xrun_of_lock]
        exact Iff.rfl
      · rw [Function.update_of_ne hi]
        exact Iff.rfl
    unfold dlBufferAcquire.acquire
    dsimp only
    split
    · exact hbump
    · split
      · exact hbump
      · split
        · rw [Machine.modBc_buf, buf_copyDlFrame]
          exact hlock _ (by simp [privBumpRxPtrAppl])
        · rw [buf_copyDlFrame]
          exact hlock _ (by simp [privBumpRxPtrAppl])
  unfold dlBufferAcquire
  split
  · exact Iff.rfl
  · split
    · split
      · exact (hacquire _ _).trans (BufState.xrun_congr rfl i)
      · exact Iff.rfl
    · exact hacquire _ _

/-- Without a reply to come, a buffer taken back is reported as overrun if it is marked, and then
the mark goes. -/
theorem dlBufferRelease_exact (hp : m.buf.speechConfigRespPend = false) (j : Fin dlSlots) :
    ((dlBufferRelease k j m).1 = -epipe ↔ m.buf.Locked (.dl (m.buf.dlbufdesc j).bd.index) ∧
        m.buf.Xrun (m.buf.dlbufdesc j).bd.index) ∧
      ((dlBufferRelease k j m).2.buf.Xrun i ↔ m.buf.Xrun i ∧
        ((dlBufferRelease k j m).1 = -epipe → i ≠ (m.buf.dlbufdesc j).bd.index)) := by
  generalize hs : (m.buf.dlbufdesc j).bd.index = s
  have hunlock : (m.buf.mapFlags (.dl s) (· &&& ~~~bufLocked)).Xrun i ↔ m.buf.Xrun i :=
    BufState.xrun_mapFlags _ i BufState.xrun_of_unlock
  have hmarked : (((m.buf.mapFlags (.dl s) (· &&& ~~~bufLocked)).dlbufdesc s).flags &&& bufXrun ≠ 0)
      ↔ m.buf.Xrun s := BufState.xrun_mapFlags _ s BufState.xrun_of_unlock
  have henoent : ¬ -enoent = -epipe := by decide
  have hzero : ¬ (0 : ℤ) = -epipe := by decide
  unfold dlBufferRelease
  dsimp only
  rw [hs, if_neg (show ¬ m.buf.speechConfigRespPend = true by rw [hp]; decide)]
  split
  · next hfree =>
    have hl : ¬ m.buf.Locked (.dl s) := not_not.mpr hfree
    exact ⟨iff_of_false henoent fun h => hl h.1,
      (and_iff_left fun h => absurd h henoent).symm⟩
  · next hheld =>
    have hl : m.buf.Locked (.dl s) := hheld
    rw [Machine.modBuf_buf]
    -- The answer is that of the mark, and the mark is cleared with it.
    by_cases hx : m.buf.Xrun s
    · rw [if_pos (hmarked.mpr hx)]
      refine ⟨iff_of_true rfl ⟨hl, hx⟩, ?_⟩
      rw [Machine.modBuf_buf, BufState.xrun_unmark, Machine.modBuf_buf, hunlock, and_comm]
      exact and_congr_right fun _ => ⟨fun h _ => h, fun h => h rfl⟩
    · rw [if_neg (mt hmarked.mp hx)]
      refine ⟨iff_of_false hzero fun h => hx h.2, ?_⟩
      rw [Machine.modBuf_buf, hunlock]
      exact (and_iff_left fun h => absurd h hzero).symm

theorem dlbufdesc_ulBufferAcquire (buf : Bool) :
    (ulBufferAcquire buf m).2.buf.dlbufdesc = m.buf.dlbufdesc := by
  unfold ulBufferAcquire
  split
  · rfl
  · split
    · rfl
    · dsimp only
      split
      · rfl
      · split
        · rfl
        · split <;> rfl

theorem dlbufdesc_ulBufferSubmit (j : Fin ulSlots) :
    (ulBufferSubmit k j m).2.buf.dlbufdesc = m.buf.dlbufdesc := by
  unfold ulBufferSubmit
  split
  · split <;> rfl
  · split
    · unfold ulBufferSend
      dsimp only
      generalize hm : m.modD _ = m₁
      have hd : m₁.buf.dlbufdesc = m.buf.dlbufdesc := by
        rw [← hm]
        rfl
      split
      · exact hd
      · split <;> exact hd
    · rfl

theorem xrun_ulBufferRelease (hp : m.buf.speechConfigRespPend = false)
    (buf : Option (Fin ulSlots)) : (ulBufferRelease k buf m).2.buf.Xrun i ↔ m.buf.Xrun i := by
  cases buf with
  | none => exact Iff.rfl
  | some j =>
    unfold ulBufferRelease
    dsimp only
    rw [if_neg (show ¬ m.buf.speechConfigRespPend = true by rw [hp]; decide)]
    rw [Machine.modBuf_buf, BufState.xrun_mapFlags _ i BufState.xrun_of_unlock]
    exact BufState.xrun_congr (dlbufdesc_ulBufferSubmit k m j) i

theorem xrun_fillBuffer (slot : Slot) (frameFlags : ℤ) (payload : ℕ → BitVec 8) :
    (fillBuffer slot frameFlags payload m).buf.Xrun i ↔ m.buf.Xrun i := by
  cases slot with
  | ul j => exact BufState.xrun_congr rfl i
  | dl j =>
    rw [BufState.Xrun, BufState.flags, fillBuffer]
    dsimp only [Machine.modD_buf, Machine.modBuf_buf]
    by_cases hi : i = j
    · rw [hi, Function.update_self]
      exact Iff.rfl
    · rw [Function.update_of_ne hi]
      exact Iff.rfl

end

/-! ### The ledger -/

/-- The slot whose overrun a step reports: a release that returns `-EPIPE`. -/
def reportsXrun (m : Machine) (i : Step) : Option (Fin dlSlots) :=
  match i.2 with
  | .dlBufferRelease j =>
    if (dlBufferRelease i.1 j m.begin).1 = -epipe then some (m.buf.dlbufdesc j).bd.index else none
  | _ => none

/-- What is known of the frames.  Frame `n` is the one that the `n`-th notification announces. -/
structure Ledger where
  /-- How many frames have been announced. -/
  notified : ℕ
  /-- The frame announced last at a position. -/
  frameAt : ℤ → Option ℕ
  /-- The frame in the buffer of a slot, when the buffer was given out. -/
  held : Fin dlSlots → Option ℕ
  /-- The notification that has marked a slot last, unless the mark was reported since. -/
  mark : Fin dlSlots → Option ℕ
  /-- The buffer of the slot was given out with the mark of an earlier frame, and no frame for the
  slot or the one before was announced since. -/
  old : Fin dlSlots → Bool

/-- The slot was marked for an earlier frame than the one in its buffer, so that the mark says
nothing about the frame that is held. -/
def OldMark (mark held : Option ℕ) : Prop := ∃ g ∈ mark, ∃ f ∈ held, g < f

instance (mark held : Option ℕ) : Decidable (OldMark mark held) :=
  inferInstanceAs (Decidable (∃ g ∈ mark, ∃ f ∈ held, g < f))

namespace Ledger

/-- Nothing is announced, given out or marked. -/
def blank : Ledger := ⟨0, fun _ => none, fun _ => none, fun _ => none, fun _ => false⟩

def announce (l : Ledger) (m : Machine) (cmd : Cmd) : Ledger :=
  { l with
    notified := l.notified + 1
    frameAt := Function.update l.frameAt cmd.rxPtr (some l.notified)
    mark := fun i => if MarksXrun m cmd i then some l.notified else l.mark i
    old := fun i =>
      if i = dlSlotOf cmd.rxPtr ∨ i = dlSlotOf cmd.rxPtr + 1 then false else l.old i }

def give (l : Ledger) (i : Fin dlSlots) (frame : Option ℕ) : Ledger :=
  { l with
    held := Function.update l.held i frame
    old := Function.update l.old i (decide (OldMark (l.mark i) frame)) }

def report (l : Ledger) (i : Fin dlSlots) : Ledger :=
  { l with mark := Function.update l.mark i none }

/-- The ledger after a step from state `m`, by what the step announces, marks, gives out and takes
back. -/
def next (m : Machine) (i : Step) (l : Ledger) : Ledger :=
  match i.2 with
  | .checkPending true (some cmd) => if RxDataWord cmd then l.announce m cmd else l
  | .dlBufferAcquire buf =>
    match (dlBufferAcquire buf m.begin).1 with
    | .ok j => l.give j ((dlPosition m).bind l.frameAt)
    | .error _ => l
  | .dlBufferRelease _ =>
    match reportsXrun m i with
    | some s => l.report s
    | none => l
  | _ => l

end Ledger

/-- The backend with the ledger, which has no part in what the backend does. -/
abbrev ledgered : Lts (Machine × Ledger) Step Obs :=
  nokiamodem.withRecord Ledger.blank Ledger.next

/-- An overrun that is reported was marked by the notification of the frame in the buffer, or by
a later one. -/
def ChargedRightly (p : Machine × Ledger) (i : Step) : Prop :=
  ∀ s, reportsXrun p.1 i = some s → ∀ f, p.2.held s = some f → ∃ g, p.2.mark s = some g ∧ f ≤ g

/-- A buffer is taken back that was given out with the mark of an earlier frame: the application
is charged with an overrun of a frame that it never had. -/
def ChargesOldMark (p : Machine × Ledger) (op : Op) : Prop :=
  ∃ s, op.released p.1.buf = some (.dl s) ∧ p.1.buf.Locked (.dl s) ∧ p.1.buf.Xrun s ∧
    p.2.old s = true

/-- The ledger is that of a buffer state.  It notes for every slot which frame its mark is for and
which frame is held from it, and whether the mark was the older one when the buffer was given out;
the library itself keeps the mark and no more. -/
structure Ledger.Fits (l : Ledger) (b : BufState) : Prop where
  respPend : b.speechConfigRespPend = false
  xrun : ∀ i, b.Xrun i ↔ (l.mark i).isSome
  frame_lt : ∀ p, ∀ f ∈ l.frameAt p, f < l.notified
  held_lt : ∀ i, ∀ f ∈ l.held i, f < l.notified
  old_iff : ∀ i, b.Locked (.dl i) → (l.old i = true ↔ OldMark (l.mark i) (l.held i))

namespace Ledger.Fits

variable {l : Ledger} {b b' : BufState}

theorem blank (hp : b.speechConfigRespPend = false) (hx : ∀ i, ¬ b.Xrun i) :
    Ledger.blank.Fits b := by
  refine ⟨hp, fun i => iff_of_false (hx i) (by simp [Ledger.blank]), ?_, ?_, ?_⟩
  · intro p f hf
    cases hf
  · intro i f hf
    cases hf
  · intro i _
    refine iff_of_false (by simp [Ledger.blank]) ?_
    rintro ⟨g, hg, -⟩
    cases hg

/-- Nothing happens to the downlink buffers, apart from some that are taken back. -/
theorem of_keeps (h : l.Fits b) (hp : b'.speechConfigRespPend = false)
    (hx : ∀ i, b'.Xrun i ↔ b.Xrun i) (hl : ∀ i, b'.Locked (.dl i) → b.Locked (.dl i)) :
    l.Fits b' :=
  ⟨hp, fun i => (hx i).trans (h.xrun i), h.frame_lt, h.held_lt, fun i hi => h.old_iff i (hl i hi)⟩

/-- A frame is announced: the marks that it sets are put down to it, and it is the one at its
position. -/
theorem announce {m : Machine} {cmd : Cmd} (h : l.Fits m.buf)
    (hp : b'.speechConfigRespPend = false) (hx : ∀ i, b'.Xrun i ↔ MarksXrun m cmd i ∨ m.buf.Xrun i)
    (hl : ∀ i, b'.Locked (.dl i) ↔ m.buf.Locked (.dl i)) : (l.announce m cmd).Fits b' := by
  refine ⟨hp, ?_, ?_, ?_, ?_⟩
  · intro i
    rw [hx, h.xrun, Ledger.announce]
    dsimp only
    -- The mark is put down to this frame, or stays with the frame it had.
    by_cases hm : MarksXrun m cmd i
    · simp [hm]
    · simp [hm]
  · intro p f hf
    rw [Ledger.announce] at hf ⊢
    dsimp only at hf ⊢
    by_cases hpos : p = cmd.rxPtr
    · rw [hpos, Function.update_self, Option.mem_some_iff] at hf
      omega
    · rw [Function.update_of_ne hpos] at hf
      have hlt := h.frame_lt p f hf
      omega
  · intro i f hf
    have hlt := h.held_lt i f hf
    show f < l.notified + 1
    omega
  · intro i hi
    have hheld := (hl i).mp hi
    have hold := h.old_iff i hheld
    rw [Ledger.announce]
    dsimp only
    by_cases hnear : i = dlSlotOf cmd.rxPtr ∨ i = dlSlotOf cmd.rxPtr + 1
    · -- the slot is held, so that it is marked again, for this frame
      rw [if_pos hnear, if_pos (show MarksXrun m cmd i from Or.inr ⟨hnear, hheld⟩)]
      refine iff_of_false (by simp) ?_
      rintro ⟨g, hg, f, hf, hlt⟩
      rw [Option.mem_some_iff] at hg
      have hflt := h.held_lt i f hf
      omega
    · have hnot : ¬ MarksXrun m cmd i := by
        rintro (⟨heq, -⟩ | ⟨heq, -⟩)
        · exact hnear (Or.inl heq)
        · exact hnear heq
      rw [if_neg hnear, if_neg hnot]
      exact hold

/-- A buffer is given out: it holds the frame that was announced last for its position. -/
theorem give (h : l.Fits b) {j : Fin dlSlots} (p : Option ℤ)
    (hp : b'.speechConfigRespPend = false) (hx : ∀ i, b'.Xrun i ↔ b.Xrun i)
    (hl : ∀ i, b'.Locked (.dl i) → i = j ∨ b.Locked (.dl i)) :
    (l.give j (p.bind l.frameAt)).Fits b' := by
  refine ⟨hp, fun i => (hx i).trans (h.xrun i), h.frame_lt, ?_, ?_⟩
  · intro i f hf
    rw [Ledger.give] at hf
    dsimp only at hf
    by_cases hi : i = j
    · rw [hi, Function.update_self] at hf
      obtain ⟨pos, -, hpos⟩ := Option.bind_eq_some_iff.mp hf
      exact h.frame_lt pos f hpos
    · rw [Function.update_of_ne hi] at hf
      exact h.held_lt i f hf
  · intro i hi
    rw [Ledger.give]
    dsimp only
    by_cases hj : i = j
    · rw [hj, Function.update_self, Function.update_self, decide_eq_true_iff]
    · rw [Function.update_of_ne hj, Function.update_of_ne hj]
      exact h.old_iff i ((hl i hi).resolve_left hj)

/-- The mark of a buffer that is taken back is reported. -/
theorem report (h : l.Fits b) {s : Fin dlSlots} (hp : b'.speechConfigRespPend = false)
    (hx : ∀ i, b'.Xrun i ↔ b.Xrun i ∧ i ≠ s)
    (hl : ∀ i, b'.Locked (.dl i) → b.Locked (.dl i) ∧ i ≠ s) : (l.report s).Fits b' := by
  refine ⟨hp, ?_, h.frame_lt, h.held_lt, ?_⟩
  · intro i
    rw [hx, h.xrun, Ledger.report]
    dsimp only
    by_cases hi : i = s
    · rw [hi, Function.update_self]
      simp
    · rw [Function.update_of_ne hi]
      exact and_iff_left hi
  · intro i hi
    obtain ⟨hheld, hne⟩ := hl i hi
    rw [Ledger.report]
    dsimp only
    rw [Function.update_of_ne hne]
    exact h.old_iff i hheld

/-! ### One step of the data path -/

section
variable {m : Machine} {i : Step}

theorem locked_next (h : l.Fits m.buf) (ht : i.2.Transfers) (j : Fin dlSlots) :
    (nokiamodem.next m i).1.buf.Locked (.dl j) ↔ i.2.acquired m = some (.dl j) ∨
      m.buf.Locked (.dl j) ∧ i.2.released m.buf ≠ some (.dl j) :=
  (keeps_of_transfers ht (ht.not_comesToReply h.respPend)).locked _

theorem respPend_next (h : l.Fits m.buf) (ht : i.2.Transfers) :
    (nokiamodem.next m i).1.buf.speechConfigRespPend = false :=
  (keeps_of_transfers ht (ht.not_comesToReply h.respPend)).respPend.trans h.respPend

/-- A step that gives out no downlink buffer: what is held after it was held before, and is not
the one given back. -/
theorem locked_of_next (h : l.Fits m.buf) (ht : i.2.Transfers)
    (ha : ∀ j, i.2.acquired m ≠ some (.dl j)) (j : Fin dlSlots)
    (hj : (nokiamodem.next m i).1.buf.Locked (.dl j)) :
    m.buf.Locked (.dl j) ∧ i.2.released m.buf ≠ some (.dl j) :=
  ((h.locked_next ht j).mp hj).resolve_left (ha j)

end

section
variable (k : Kernel) {m : Machine}

/-- A notification announces a frame, and the ledger fits the buffers after it. -/
theorem next_recv (h : l.Fits m.buf) {cmd : Cmd} (hw : RxDataWord cmd) :
    (Ledger.next m (k, .recv cmd) l).Fits (nokiamodem.next m (k, .recv cmd)).1.buf := by
  have ht : (Op.recv cmd).Transfers := hw
  have hrun := next_of_rxDataWord k m hw
  have hnext : Ledger.next m (k, .recv cmd) l = l.announce m cmd := if_pos hw
  rw [hnext]
  refine h.announce (h.respPend_next ht) (fun j => ?_) fun j => ?_
  · rw [hrun]
    exact xrun_handleInboundRxDataReceived _ j cmd
  · refine (h.locked_next ht j).trans ?_
    simp [Op.acquired, Op.released]

/-- `cmtspeech_dl_buffer_acquire` gives out a buffer, or fails. -/
theorem next_dlBufferAcquire (h : l.Fits m.buf) (buf : Bool) :
    (Ledger.next m (k, .dlBufferAcquire buf) l).Fits
      (nokiamodem.next m (k, .dlBufferAcquire buf)).1.buf := by
  have ht : (Op.dlBufferAcquire buf).Transfers := trivial
  have hp := h.respPend_next (i := (k, .dlBufferAcquire buf)) ht
  have hx (j : Fin dlSlots) : (nokiamodem.next m (k, .dlBufferAcquire buf)).1.buf.Xrun j ↔
      m.buf.Xrun j := xrun_dlBufferAcquire _ j buf
  have hacq : (Op.dlBufferAcquire buf).acquired m =
      (dlBufferAcquire buf m.begin).1.toOption.map .dl := rfl
  unfold Ledger.next
  dsimp only
  cases hres : (dlBufferAcquire buf m.begin).1 with
  | error e =>
    refine h.of_keeps hp hx fun j hj => (h.locked_of_next ht (fun j' => ?_) j hj).1
    rw [hacq, hres]
    exact (Option.some_ne_none _).symm
  | ok s =>
    refine h.give _ hp hx fun j hj => ?_
    rcases (h.locked_next ht j).mp hj with ha | hj'
    · rw [hacq, hres] at ha
      exact Or.inl (Slot.dl.inj (Option.some.inj ha)).symm
    · exact Or.inr hj'.1

/-- `cmtspeech_dl_buffer_release` takes a buffer back, and reports its mark. -/
theorem next_dlBufferRelease (h : l.Fits m.buf) (j : Fin dlSlots) :
    (Ledger.next m (k, .dlBufferRelease j) l).Fits
      (nokiamodem.next m (k, .dlBufferRelease j)).1.buf := by
  have ht : (Op.dlBufferRelease j).Transfers := trivial
  have hp := h.respPend_next (i := (k, .dlBufferRelease j)) ht
  have hrel (s : Fin dlSlots) := dlBufferRelease_exact k m.begin s h.respPend j
  have hkept := h.locked_of_next (i := (k, .dlBufferRelease j)) ht
    fun _ => (Option.some_ne_none _).symm
  unfold Ledger.next reportsXrun
  dsimp only
  by_cases hres : (dlBufferRelease k j m.begin).1 = -epipe
  · rw [if_pos hres]
    refine h.report hp (fun s => ?_) fun s hs => ?_
    · refine (hrel s).2.trans (and_congr_right fun _ => ?_)
      exact ⟨fun h => h hres, fun h _ => h⟩
    · obtain ⟨hheld, hne⟩ := hkept s hs
      exact ⟨hheld, fun he => hne (congrArg (fun s => some (Slot.dl s)) he.symm)⟩
  · rw [if_neg hres]
    refine h.of_keeps hp (fun s => ?_) fun s hs => (hkept s hs).1
    exact (hrel s).2.trans (and_iff_left fun h => absurd h hres)

end

theorem next {m : Machine} {i : Step} (h : l.Fits m.buf) (ht : i.2.Transfers) :
    (Ledger.next m i l).Fits (nokiamodem.next m i).1.buf := by
  have hp := h.respPend_next ht
  have hfree := h.locked_of_next ht
  have hnone (j : Fin dlSlots) : none ≠ some (Slot.dl j) := (Option.some_ne_none _).symm
  obtain ⟨k, op⟩ := i
  match op, ht with
  | .checkPending true (some cmd), hw => exact h.next_recv k hw
  | .dlBufferAcquire buf, _ => exact h.next_dlBufferAcquire k buf
  | .dlBufferRelease j, _ => exact h.next_dlBufferRelease k j
  | .ulBufferAcquire buf, _ =>
    have hx (j : Fin dlSlots) : (nokiamodem.next m (k, .ulBufferAcquire buf)).1.buf.Xrun j ↔
        m.buf.Xrun j := BufState.xrun_congr (dlbufdesc_ulBufferAcquire m.begin buf) j
    refine h.of_keeps hp hx fun j hj => (hfree (fun j' h' => ?_) j hj).1
    cases hres : (ulBufferAcquire buf m.begin).1 <;> simp [Op.acquired, hres] at h'
  | .ulBufferRelease buf, _ =>
    exact h.of_keeps hp (fun j => xrun_ulBufferRelease k m.begin j h.respPend buf)
      fun j hj => (hfree hnone j hj).1
  | .fillBuffer slot frameFlags payload, _ =>
    exact h.of_keeps hp (fun j => xrun_fillBuffer m.begin j slot frameFlags payload)
      fun j hj => (hfree hnone j hj).1
  | .driver area, _ => exact h.of_keeps hp (fun _ => Iff.rfl) fun j hj => (hfree hnone j hj).1

/-- What one step reports is charged to the right frame, or it is a mark of an earlier one. -/
theorem chargedRightly_iff_step {m : Machine} (h : l.Fits m.buf) (i : Step) :
    ChargedRightly (m, l) i ↔ ¬ ChargesOldMark (m, l) i.2 := by
  -- The release that returns -EPIPE is that of a locked slot with a mark.
  have hreports (s : Fin dlSlots) : reportsXrun m i = some s ↔
      i.2.released m.buf = some (.dl s) ∧ m.buf.Locked (.dl s) ∧ m.buf.Xrun s := by
    obtain ⟨k, op⟩ := i
    cases op with
    | dlBufferRelease j =>
      have hrel := (dlBufferRelease_exact k m.begin s h.respPend j).1
      unfold reportsXrun Op.released
      dsimp only
      split
      · next hres =>
        obtain ⟨hl, hx⟩ := hrel.mp hres
        constructor
        · rintro ⟨⟩
          exact ⟨rfl, hl, hx⟩
        · rintro ⟨hs, -⟩
          exact congrArg some (Slot.dl.inj (Option.some.inj hs))
      · next hres =>
        refine iff_of_false (fun h => nomatch h) ?_
        rintro ⟨hs, hl, hx⟩
        obtain rfl := Slot.dl.inj (Option.some.inj hs)
        exact hres (hrel.mpr ⟨hl, hx⟩)
    | ulBufferRelease buf =>
      refine iff_of_false (fun h => nomatch h) ?_
      rintro ⟨hs, -⟩
      cases buf with
      | none => cases hs
      | some j => cases hs
    | _ => exact iff_of_false (fun h => nomatch h) fun h => nomatch h.1
  constructor
  · rintro hc ⟨s, hrel, hl, hx, hold⟩
    obtain ⟨g, hg, f, hf, hlt⟩ := (h.old_iff s hl).mp hold
    obtain ⟨g', hg', hle⟩ := hc s ((hreports s).mpr ⟨hrel, hl, hx⟩) f hf
    have heq : g = g' := Option.some.inj (hg.symm.trans hg')
    omega
  · intro hc s hs f hf
    obtain ⟨hrel, hl, hx⟩ := (hreports s).mp hs
    obtain ⟨g, hg⟩ := Option.isSome_iff_exists.mp ((h.xrun s).mp hx)
    refine ⟨g, hg, ?_⟩
    by_contra hlt
    exact hc ⟨s, hrel, hl, hx, (h.old_iff s hl).mpr ⟨g, hg, f, hf, not_le.mp hlt⟩⟩

end Ledger.Fits

/-- **Overruns are charged to the frames they are of**, in a run of the data path that starts
without marks, if and only if no buffer is taken back that was given out with the mark of an
earlier frame and was not marked again since. -/
theorem chargedRightly_iff {m : Machine} (hp : m.buf.speechConfigRespPend = false)
    (hx : ∀ i, ¬ m.buf.Xrun i) {is : List Step} (ht : ∀ i ∈ is, i.2.Transfers) :
    ledgered.Along ChargedRightly (m, .blank) is ↔
      ledgered.Along (fun p i => ¬ ChargesOldMark p i.2) (m, .blank) is := by
  have hruns : ledgered.Along (fun _ i => i.2.Transfers) (m, .blank) is :=
    (ledgered.along_forall _ _ _).mpr ht
  refine ledgered.along_iff_along (I := fun p => p.2.Fits p.1.buf) ?_ ?_ (.blank hp hx) hruns
  · intro p i hfits hi _
    exact hfits.next hi
  · intro p i hfits _
    exact hfits.chargedRightly_iff_step i

/-! ### A mark that stays -/

/-- Three frames are complete when they are announced, and the application goes on with the last
one; then a fourth one comes, in time. -/
def passedOverRun : List Step :=
  [(.rolling, .driver (.rolling 3)),
    (.rolling, .recv (privMsgEncodeDriverMessage csRxDataReceived 0)),
    (.rolling, .recv (privMsgEncodeDriverMessage csRxDataReceived 1)),
    (.rolling, .recv (privMsgEncodeDriverMessage csRxDataReceived 2)),
    (.rolling, .dlBufferAcquire true), (.rolling, .dlBufferRelease 2),
    (.rolling, .driver (.rolling 4)),
    (.rolling, .recv (privMsgEncodeDriverMessage csRxDataReceived 3)),
    (.rolling, .dlBufferAcquire true), (.rolling, .dlBufferRelease 0)]

theorem transfers_passedOver : ∀ i ∈ passedOverRun, i.2.Transfers := by
  simp only [passedOverRun, List.forall_mem_cons, Op.Transfers]
  exact ⟨trivial, by decide, by decide, by decide, trivial, trivial, trivial, by decide, trivial,
    trivial, by simp⟩

/-- The run, as an instance: a mark is set for a frame that was passed over, and reported for a
later one. -/
theorem chargedRightly_passedOver :
    ledgered.Along ChargedRightly (nokiamodem.exec Machine.fresh streamingRun, .blank)
        passedOverRun ↔
      ledgered.Along (fun p i => ¬ ChargesOldMark p i.2)
        (nokiamodem.exec Machine.fresh streamingRun, .blank) passedOverRun :=
  chargedRightly_iff (by decide) (by decide) transfers_passedOver

/-- The fourth frame is reported as overrun: its slot was marked for the first one. -/
theorem not_chargedRightly_passedOver :
    nokiamodem.Reachable (nokiamodem.exec Machine.fresh streamingRun) ∧
      (nokiamodem.exec Machine.fresh streamingRun).d.rollingRxPtr = true ∧
      (nokiamodem.exec Machine.fresh streamingRun).buf.speechConfigRespPend = false ∧
      (∀ i, ¬ (nokiamodem.exec Machine.fresh streamingRun).buf.Xrun i) ∧
      (∀ i ∈ passedOverRun, i.2.Transfers) ∧
      ¬ ledgered.Along ChargedRightly (nokiamodem.exec Machine.fresh streamingRun, .blank)
        passedOverRun := by
  refine ⟨⟨_, _, init_fresh, rfl⟩, by decide, by decide, by decide, transfers_passedOver, ?_⟩
  intro h
  have hlast := (ledgered.along_iff_forall_split _ _ _).mp h (passedOverRun.take 9)
    (.rolling, .dlBufferRelease 0) [] rfl
  obtain ⟨g, hg, hle⟩ := hlast 0 (by decide +kernel) 3 (by decide +kernel)
  have hzero : g = 0 := Option.some.inj (hg.symm.trans (by decide +kernel))
  omega

end CmtSpeech
