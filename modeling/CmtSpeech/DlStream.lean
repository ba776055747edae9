import CmtSpeech.DataStep
import CmtSpeech.Lib.FrameStream
import Mathlib.Data.Nat.Cast.Order.Ring

/-!
# The downlink as a stream of frames

With rolling pointers the driver, the notifications and the application each have a position,
counted modulo a boundary.  Within one configuration these are the counts of a stream of
frames read from `DL_SLOTS` slots, as long as the application is less than the boundary
behind the driver: what the library computes from the positions is what the counts say, and
every call goes the way the stream goes.

* `Tracks` — the positions of an instance are the counts of a stream.
* `Plays` — the steps of a run, and what they are to the stream.
* `HandsOut` — the frame a call hands out.
* `InOrder` — the frames are delivered in order.

## Main results

* `Tracks.step` — a step of the backend is a step of the stream.
* `dlFrames_inOrder`
* `dlFrames_fresh_iff`
-/

namespace CmtSpeech

open FrameStream

/-! ### Positions -/

/-- A boundary at which the slots come round, and below which positions are nonnegative `int`s.
The driver chooses one; both pointers into the stream are counted modulo it. -/
structure RollsAt (b : ℕ) : Prop where
  dvd : dlSlots ∣ b
  pos : 0 < b
  le : b ≤ 2 ^ 31

/-- The position of a count: the driver counts the frames modulo the boundary. -/
def position (b n : ℕ) : ℤ := ((n % b : ℕ) : ℤ)

/-- The positions of an instance are the counts of the stream `s` modulo `b`, and its
downlink descriptors may be given out. -/
structure Tracks (b : ℕ) (m : Machine) (s : FrameStream) : Prop where
  rolling : m.d.rollingRxPtr = true
  boundary : m.d.buf.rxPtrBoundary.toNat = b
  rxPtr : m.d.buf.rxPtr.toNat = s.completed % b
  rxPtrHw : m.buf.rxPtrHw = if s.notified = 0 then -1 else position b (s.notified - 1)
  rxPtrAppl : m.buf.rxPtrAppl = if s.notified = 0 then -1 else position b s.next
  valid : ∀ i, ¬ m.buf.Invalid (.dl i)
  respPend : m.buf.speechConfigRespPend = false

/-- The slot of a frame: the slots are used in turn, from the first one on. -/
def slotOfFrame (f : ℕ) : Fin dlSlots := Fin.ofNat dlSlots f

section
variable {b : ℕ} {m : Machine} {s : FrameStream}

theorem RollsAt.one_lt (hb : RollsAt b) : 1 < b := by
  have : dlSlots ≤ b := Nat.le_of_dvd hb.pos hb.dvd
  unfold dlSlots at this
  omega

theorem dlSlotOf_position (hb : RollsAt b) (n : ℕ) : dlSlotOf (position b n) = slotOfFrame n := by
  apply Fin.ext
  show (n % b) % dlSlots = n % dlSlots
  exact Nat.mod_mod_of_dvd n hb.dvd

/-- A position as a machine word is the number of the frame modulo the boundary. -/
theorem toNat_ofInt_position (hb : RollsAt b) (n : ℕ) :
    (BitVec.ofInt 32 (position b n)).toNat = n % b := by
  have hlt : n % b < b := Nat.mod_lt n hb.pos
  have hle := hb.le
  rw [position, BitVec.ofInt_natCast, BitVec.toNat_ofNat]
  exact Nat.mod_eq_of_lt (by omega)

namespace Tracks

theorem hw (h : Tracks b m s) (hn : s.notified ≠ 0) :
    m.buf.rxPtrHw = position b (s.notified - 1) := by rw [h.rxPtrHw, if_neg hn]

theorem appl (h : Tracks b m s) (hn : s.notified ≠ 0) : m.buf.rxPtrAppl = position b s.next := by
  rw [h.rxPtrAppl, if_neg hn]

/-- The delay is the number of frames the driver is ahead of the application. -/
theorem privRxHwDelay_eq (h : Tracks b m s) (hb : RollsAt b) (ho : s.Ordered)
    (hn : s.notified ≠ 0) (hlag : s.completed - s.next < b) :
    privRxHwDelay m = ((s.completed - s.next : ℕ) : ℤ) := by
  have hle := hb.le
  have hpos : ((m.d.buf.rxPtrBoundary + m.d.buf.rxPtr - BitVec.ofInt 32 m.buf.rxPtrAppl) %
      m.d.buf.rxPtrBoundary).toNat = s.completed - s.next := by
    rw [h.appl hn, BitVec.toNat_position, h.boundary, h.rxPtr, toNat_ofInt_position hb]
    · exact sub_mod_of_le (ho.next_le.trans ho.notified_le) hlag
    · rw [h.boundary]
      omega
    · rw [h.boundary, h.rxPtr]
      exact Nat.mod_lt _ hb.pos
    · rw [h.boundary, toNat_ofInt_position hb]
      exact Nat.mod_lt _ hb.pos
  unfold privRxHwDelay
  rw [BitVec.toInt_eq_toNat_of_lt (by omega), hpos]

/-- The frames available, with `b - 1` for none: the difference wraps when the application has
taken every frame. -/
theorem privRxPtrAvail_eq (h : Tracks b m s) (hb : RollsAt b) (ho : s.Ordered)
    (hn : s.notified ≠ 0) (hlag : s.completed - s.next < b) :
    (privRxPtrAvail m).toNat =
      if s.next = s.notified then b - 1 else s.notified - 1 - s.next := by
  have hle := hb.le
  obtain ⟨h₁, h₂⟩ := ho
  have hpos : (privRxPtrAvail m).toNat =
      (b + (s.notified - 1) % b - s.next % b) % b := by
    unfold privRxPtrAvail
    rw [h.hw hn, h.appl hn, BitVec.toNat_position, h.boundary, toNat_ofInt_position hb,
      toNat_ofInt_position hb]
    · rw [h.boundary]
      omega
    · rw [h.boundary, toNat_ofInt_position hb]
      exact Nat.mod_lt _ hb.pos
    · rw [h.boundary, toNat_ofInt_position hb]
      exact Nat.mod_lt _ hb.pos
  rw [hpos]
  split
  · next heq =>
    -- the application is one ahead of the last frame announced
    have hnext : s.next = s.notified - 1 + 1 := by omega
    rw [hnext]
    exact sub_mod_succ hb.one_lt
  · next hne => exact sub_mod_of_le (by omega) (by omega)

/-- The slot the library chooses, and the two ways it does not. -/
theorem privRxApplSlot_eq (h : Tracks b m s) (hb : RollsAt b) (ho : s.Ordered)
    (hn : s.notified ≠ 0) (hlag : s.completed - s.next < b) :
    privRxApplSlot m =
      if s.next = s.notified then .error (-enodata)
      else if dlSlots ≤ s.completed - s.next then .error (-epipe)
      else .ok (slotOfFrame s.next) := by
  have hdelay := h.privRxHwDelay_eq hb ho hn hlag
  have havail := h.privRxPtrAvail_eq hb ho hn hlag
  have hone := hb.one_lt
  -- Positions repeat every `b` frames.  While the lag stays below `b`, one free position is only
  -- seen when no frame is ready.
  have hempty : privRxPtrAvail m = m.d.buf.rxPtrBoundary - 1 ↔ s.next = s.notified := by
    have hsub : (m.d.buf.rxPtrBoundary - 1).toNat = b - 1 := by
      rw [BitVec.toNat_sub_of_le, h.boundary]
      · rfl
      · rw [BitVec.le_def, h.boundary]
        exact hone.le
    rw [← BitVec.toNat_inj, hsub, havail]
    split
    · next heq => exact iff_of_true rfl heq
    · next hne =>
      obtain ⟨h₁, h₂⟩ := ho
      exact iff_of_false (by omega) hne
  unfold privRxApplSlot
  rw [if_pos h.rolling]
  by_cases heq : s.next = s.notified
  · rw [if_pos (hempty.mpr heq), if_pos heq]
  · rw [if_neg (mt hempty.mp heq), if_neg heq, hdelay]
    by_cases hk : dlSlots ≤ s.completed - s.next
    · rw [if_pos (by exact_mod_cast hk), if_pos hk]
    · rw [if_neg (by exact_mod_cast hk), if_neg hk, h.appl hn, dlSlotOf_position hb]

end Tracks

/-! ### One call -/

/-- The application moves on by one frame, and wraps at the boundary with the driver. -/
theorem privBumpRxPtrAppl_position (hb : RollsAt b) (hr : m.d.rollingRxPtr = true)
    (hd : m.d.buf.rxPtrBoundary.toNat = b) {n : ℕ} (hp : m.buf.rxPtrAppl = position b n) :
    (privBumpRxPtrAppl m).buf.rxPtrAppl = position b (n + 1) := by
  have hle := hb.le
  have hlt : n % b < b := Nat.mod_lt n hb.pos
  have hmod : (n + 1) % b < b := Nat.mod_lt _ hb.pos
  have hval : (BitVec.ofInt 32 (position b n + 1) % m.d.buf.rxPtrBoundary).toNat =
      (n + 1) % b := by
    have hcast : position b n + 1 = ((n % b + 1 : ℕ) : ℤ) := by
      rw [position]
      push_cast
      rfl
    have hsmall : n % b + 1 < 2 ^ 32 := by omega
    rw [hcast, BitVec.ofInt_natCast, BitVec.toNat_umod, hd, BitVec.toNat_ofNat,
      Nat.mod_eq_of_lt hsmall, Nat.mod_add_mod]
  unfold privBumpRxPtrAppl
  rw [Machine.modBuf_buf, hp]
  dsimp only
  rw [if_pos hr, BitVec.toInt_eq_toNat_of_lt (by omega), hval, position]

/-- A buffer that may be given out is given out; the position moves on, and of the memory only
octets change. -/
theorem dlBufferAcquire_acquire_valid (m : Machine) {i : Fin dlSlots}
    (hv : ¬ m.buf.Invalid (.dl i)) :
    (dlBufferAcquire.acquire true m i).1 = .ok i ∧
      (dlBufferAcquire.acquire true m i).2.buf.rxPtrHw = m.buf.rxPtrHw ∧
      (dlBufferAcquire.acquire true m i).2.buf.rxPtrAppl =
        (privBumpRxPtrAppl m).buf.rxPtrAppl ∧
      OnlyOctets m.d (dlBufferAcquire.acquire true m i).2.d := by
  have hv' : ¬ ((privBumpRxPtrAppl m).buf.dlbufdesc i).flags &&& bufInvalid ≠ 0 := hv
  unfold dlBufferAcquire.acquire
  rw [if_neg hv', if_neg (by decide)]
  dsimp only
  generalize hm : (privBumpRxPtrAppl m).modBuf _ = m₁
  have hd : m₁.d = m.d := by rw [← hm]; rfl
  have hw : m₁.buf.rxPtrHw = m.buf.rxPtrHw := by rw [← hm]; rfl
  have ha : m₁.buf.rxPtrAppl = (privBumpRxPtrAppl m).buf.rxPtrAppl := by rw [← hm]; rfl
  -- The copy of a swapped frame writes octets of the slot, and no position.
  obtain ⟨d, hoct, hcopy⟩ := copyDlFrame_octets i
    { ((privBumpRxPtrAppl m).buf.dlbufdesc i).bd with
      frameFlags := dataTypeValid.toNat
      spcFlags := _
      reserved0 := _ } m₁
  rw [hcopy]
  rw [hd] at hoct
  split
  · exact ⟨rfl, hw, ha, hoct⟩
  · exact ⟨rfl, hw, ha, hoct⟩

/-- What a call answers, by the state of the stream: an error before the first notification,
nothing when every frame announced has been taken, and a slot otherwise. -/
def acquireResult (s : FrameStream) : Except ℤ (Fin dlSlots) :=
  if s.notified = 0 then .error (-einval)
  else match (s.take dlSlots).2 with
    | [] => .error (-enodata)
    | o :: _ => .ok (slotOfFrame o.frame)

namespace Tracks

/-- A change of the frames alone, or of the marks. -/
theorem of_octets (h : Tracks b m s) {m' : Machine} (hd : OnlyOctets m.d m'.d)
    (hw : m'.buf.rxPtrHw = m.buf.rxPtrHw) (ha : m'.buf.rxPtrAppl = m.buf.rxPtrAppl)
    (hv : ∀ i, ¬ m'.buf.Invalid (.dl i)) (hp : m'.buf.speechConfigRespPend = false) :
    Tracks b m' s := by
  obtain ⟨bytes, swap, heq⟩ := hd
  refine ⟨?_, ?_, ?_, hw.trans h.rxPtrHw, ha.trans h.rxPtrAppl, hv, hp⟩
  · rw [heq]
    exact h.rolling
  · rw [heq]
    exact h.boundary
  · rw [heq]
    exact h.rxPtr

/-- A call takes a frame of the stream, or fails for want of one; in both cases the position
afterwards is that of the stream. -/
theorem dlBufferAcquire_spec (h : Tracks b m s) (hb : RollsAt b) (ho : s.Ordered)
    (hlag : s.completed - s.next < b) :
    (dlBufferAcquire true m).1 = acquireResult s ∧
      (dlBufferAcquire true m).2.buf.rxPtrHw = m.buf.rxPtrHw ∧
      (dlBufferAcquire true m).2.buf.rxPtrAppl =
        (if s.notified = 0 then -1 else position b (s.take dlSlots).1.next) ∧
      OnlyOctets m.d (dlBufferAcquire true m).2.d := by
  -- Before the first notification the application has no position yet.
  by_cases hn : s.notified = 0
  · have hneg : m.buf.rxPtrAppl = -1 := by rw [h.rxPtrAppl, if_pos hn]
    unfold dlBufferAcquire acquireResult
    rw [if_pos (by rw [hneg]; decide), if_pos hn, if_pos hn]
    exact ⟨rfl, rfl, hneg, .refl _⟩
  · have happl := h.appl hn
    have hpos : ¬ m.buf.rxPtrAppl < 0 := by
      rw [happl]
      exact not_lt.mpr (Int.natCast_nonneg _)
    have hslot := h.privRxApplSlot_eq hb ho hn hlag
    unfold dlBufferAcquire acquireResult
    rw [if_neg hpos, hslot, if_neg hn, if_neg hn]
    by_cases heq : s.next = s.notified
    · rw [if_pos heq, take_of_eq heq]
      exact ⟨rfl, rfl, happl, .refl _⟩
    · rw [if_neg heq]
      by_cases hk : dlSlots ≤ s.completed - s.next
      · -- the last frame announced is taken instead
        rw [if_pos hk, take_of_late heq hk]
        have hhw := h.hw hn
        obtain ⟨hres, hw, ha, hd⟩ := dlBufferAcquire_acquire_valid
          (m.modBuf fun b => { b with rxPtrAppl := b.rxPtrHw })
          (i := dlSlotOf m.buf.rxPtrHw) (h.valid _)
        have hbump := privBumpRxPtrAppl_position
          (m := m.modBuf fun b => { b with rxPtrAppl := b.rxPtrHw }) hb h.rolling h.boundary hhw
        refine ⟨?_, hw, ?_, hd⟩
        · refine hres.trans ?_
          rw [hhw, dlSlotOf_position hb]
        · refine (ha.trans hbump).trans ?_
          rw [Nat.sub_add_cancel (by omega)]
      · rw [if_neg hk, take_of_early heq (not_le.mp hk)]
        obtain ⟨hres, hw, ha, hd⟩ := dlBufferAcquire_acquire_valid m (h.valid (slotOfFrame s.next))
        exact ⟨hres, hw, ha.trans (privBumpRxPtrAppl_position hb h.rolling h.boundary happl), hd⟩

end Tracks

/-- Overrun marks leave the positions alone: they are set in the flags of a descriptor. -/
theorem markXrun_positions (c : Machine → Bool) (slot : Fin dlSlots) (r : BitVec 4 × Machine) :
    (markXrun c slot r).2.d = r.2.d ∧ (markXrun c slot r).2.buf.rxPtrHw = r.2.buf.rxPtrHw ∧
      (markXrun c slot r).2.buf.rxPtrAppl = r.2.buf.rxPtrAppl := by
  unfold markXrun
  split
  · exact ⟨rfl, rfl, rfl⟩
  · exact ⟨rfl, rfl, rfl⟩

/-- A notification sets the driver's position, and the first one the application's. -/
theorem handleInboundRxDataReceived_positions (cmd : Cmd) (m : Machine) :
    (handleInboundRxDataReceived cmd m).2.d = m.d ∧
      (handleInboundRxDataReceived cmd m).2.buf.rxPtrHw = ((cmd.word &&& 0xffffff).toNat : ℤ) ∧
      (handleInboundRxDataReceived cmd m).2.buf.rxPtrAppl =
        if m.buf.rxPtrAppl < 0 then ((cmd.word &&& 0xffffff).toNat : ℤ)
        else m.buf.rxPtrAppl := by
  unfold handleInboundRxDataReceived
  dsimp only
  -- The three marks are set in descriptors alone.
  generalize hr : markXrun _ _ (markXrun _ _ (markXrun _ _ _)) = r
  obtain ⟨hd, hw, ha⟩ : r.2.d = m.d ∧ r.2.buf.rxPtrHw = ((cmd.word &&& 0xffffff).toNat : ℤ) ∧
      r.2.buf.rxPtrAppl = if m.buf.rxPtrAppl < 0 then ((cmd.word &&& 0xffffff).toNat : ℤ)
        else m.buf.rxPtrAppl := by
    rw [← hr]
    refine ⟨?_, ?_, ?_⟩
    · rw [(markXrun_positions _ _ _).1, (markXrun_positions _ _ _).1,
        (markXrun_positions _ _ _).1]
      rfl
    · rw [(markXrun_positions _ _ _).2.1, (markXrun_positions _ _ _).2.1,
        (markXrun_positions _ _ _).2.1]
      rfl
    · rw [(markXrun_positions _ _ _).2.2, (markXrun_positions _ _ _).2.2,
        (markXrun_positions _ _ _).2.2]
      rfl
  exact ⟨hd, hw, ha⟩

/-- A notification is handled, and nothing else is done with the word. -/
theorem next_of_rxDataWord (k : Kernel) (m : Machine) {cmd : Cmd} (h : RxDataWord cmd) :
    (nokiamodem.next m (k, .recv cmd)).1 =
      (handleInboundRxDataReceived cmd (m.begin.emit (.recv cmd))).2 := by
  obtain ⟨hd, ht⟩ := h
  have hne : msgGetDomain cmd ≠ domainControl := by
    rw [hd]
    decide
  show (checkPending k true (some cmd) m.begin).2.2 = _
  rw [checkPending, if_neg (by decide), handleInboundControlMessage, if_neg hne, if_pos hd,
    if_pos ht]

end

/-! ### Runs -/

/-- The steps of a run with the stream in state `s`, and what they are to the stream: the
driver completes frames and announces them in order, the application takes and returns
them. -/
inductive Plays (b : ℕ) (s : FrameStream) : Step × Input → Prop
  | complete {k : Kernel} {area : MmapArea} (hp : area.rxPtr.toNat = (s.completed + 1) % b)
      (hd : area.rxPtrBoundary.toNat = b) : Plays b s ((k, .driver area), .complete)
  | notify {k : Kernel} {cmd : Cmd} (hd : msgGetDomain cmd = domainInternal)
      (ht : msgGetType cmd = csRxDataReceived) (hn : s.notified < s.completed)
      (hp : (cmd.word &&& 0xffffff).toNat = s.notified % b) :
    Plays b s ((k, .recv cmd), .notify)
  | acquire {k : Kernel} : Plays b s ((k, .dlBufferAcquire true), .take)
  | release {k : Kernel} {i : Fin dlSlots} : Plays b s ((k, .dlBufferRelease i), .idle)
  | fill {k : Kernel} {i : Fin dlSlots} {frameFlags : ℤ} {payload : ℕ → BitVec 8} :
    Plays b s ((k, .fillBuffer (.dl i) frameFlags payload), .idle)

/-- The backend beside the stream.  Both take the same steps, the backend with its own pointers
and the stream with counts that grow for ever. -/
def dlStream : Lts (Machine × FrameStream) (Step × Input) Handout :=
  nokiamodem.both (read dlSlots)

namespace Plays

variable {b : ℕ} {s : FrameStream} {i : Step × Input}

theorem transfers (h : Plays b s i) : i.1.2.Transfers := by
  cases h with
  | notify hd ht hn hp => exact ⟨hd, ht⟩
  | _ => trivial

theorem allowed (h : Plays b s i) : i.2.Allowed s := by
  cases h with
  | notify hd ht hn hp => exact hn
  | _ => trivial

end Plays

section
variable {b : ℕ} {m : Machine} {s : FrameStream} {k : Kernel}

/-- Taking a frame moves the next one wanted alone. -/
theorem take_counts (s : FrameStream) : (s.take dlSlots).1.completed = s.completed ∧
    (s.take dlSlots).1.notified = s.notified := by
  unfold take
  split
  · exact ⟨rfl, rfl⟩
  · split <;> exact ⟨rfl, rfl⟩

namespace Tracks

theorem begin (h : Tracks b m s) : Tracks b m.begin s :=
  ⟨h.rolling, h.boundary, h.rxPtr, h.rxPtrHw, h.rxPtrAppl, h.valid, h.respPend⟩

theorem notify (h : Tracks b m s) (ho : s.Ordered) {cmd : Cmd}
    (hp : (cmd.word &&& 0xffffff).toNat = s.notified % b)
    (hv : ∀ i, ¬ (handleInboundRxDataReceived cmd m).2.buf.Invalid (.dl i))
    (hr : (handleInboundRxDataReceived cmd m).2.buf.speechConfigRespPend = false) :
    Tracks b (handleInboundRxDataReceived cmd m).2 { s with notified := s.notified + 1 } := by
  obtain ⟨hd, hw, ha⟩ := handleInboundRxDataReceived_positions cmd m
  refine ⟨?_, ?_, ?_, ?_, ?_, hv, hr⟩
  · rw [hd]
    exact h.rolling
  · rw [hd]
    exact h.boundary
  · rw [hd]
    exact h.rxPtr
  · rw [hw, if_neg (Nat.succ_ne_zero _), hp]
    rfl
  · rw [ha, if_neg (Nat.succ_ne_zero _)]
    by_cases hz : s.notified = 0
    · -- the first notification: the application starts with its frame
      have happl : m.buf.rxPtrAppl = -1 := by rw [h.rxPtrAppl, if_pos hz]
      have hnz : s.next = 0 := Nat.le_zero.mp (hz ▸ ho.next_le)
      rw [happl, if_pos (by decide), hp, hz]
      show position b 0 = position b s.next
      rw [hnz]
    · have happl := h.appl hz
      have hpos : ¬ m.buf.rxPtrAppl < 0 := by
        rw [happl]
        exact not_lt.mpr (Int.natCast_nonneg _)
      rw [if_neg hpos]
      exact happl

theorem acquire (h : Tracks b m s) (hb : RollsAt b) (ho : s.Ordered)
    (hlag : s.completed - s.next < b)
    (hv : ∀ i, ¬ (dlBufferAcquire true m).2.buf.Invalid (.dl i))
    (hr : (dlBufferAcquire true m).2.buf.speechConfigRespPend = false) :
    Tracks b (dlBufferAcquire true m).2 (s.take dlSlots).1 := by
  obtain ⟨-, hw, ha, bytes, swap, heq⟩ := h.dlBufferAcquire_spec hb ho hlag
  obtain ⟨hc, hn⟩ := take_counts s
  refine ⟨?_, ?_, ?_, ?_, ?_, hv, hr⟩
  · rw [heq]
    exact h.rolling
  · rw [heq]
    exact h.boundary
  · rw [heq, hc]
    exact h.rxPtr
  · rw [hn]
    exact hw.trans h.rxPtrHw
  · rw [hn]
    exact ha

/-- Without a reply to come, taking a buffer back moves its marks alone. -/
theorem release (h : Tracks b m s) (i : Fin dlSlots)
    (hv : ∀ i', ¬ (dlBufferRelease k i m).2.buf.Invalid (.dl i'))
    (hr : (dlBufferRelease k i m).2.buf.speechConfigRespPend = false) :
    Tracks b (dlBufferRelease k i m).2 s := by
  have hmoves : OnlyOctets m.d (dlBufferRelease k i m).2.d ∧
      (dlBufferRelease k i m).2.buf.rxPtrHw = m.buf.rxPtrHw ∧
      (dlBufferRelease k i m).2.buf.rxPtrAppl = m.buf.rxPtrAppl := by
    unfold dlBufferRelease
    dsimp only
    split
    · exact ⟨.refl _, rfl, rfl⟩
    · rw [if_neg (by rw [h.respPend]; decide)]
      split
      · exact ⟨.refl _, rfl, rfl⟩
      · exact ⟨.refl _, rfl, rfl⟩
  exact h.of_octets hmoves.1 hmoves.2.1 hmoves.2.2 hv hr

/-- **A step of the backend is a step of the stream.** -/
theorem step (h : Tracks b m s) (hb : RollsAt b) (ho : s.Ordered)
    (hlag : s.completed - s.next < b) {i : Step × Input} (hi : Plays b s i) :
    Tracks b (nokiamodem.next m i.1).1 ((read dlSlots).next s i.2).1 := by
  have hkeep := keeps_of_transfers hi.transfers (hi.transfers.not_comesToReply h.respPend)
  have hv (j : Fin dlSlots) : ¬ (nokiamodem.next m i.1).1.buf.Invalid (.dl j) :=
    fun hj => h.valid j ((hkeep.invalid _).mp hj)
  have hr : (nokiamodem.next m i.1).1.buf.speechConfigRespPend = false :=
    hkeep.respPend.trans h.respPend
  cases hi with
  | complete hp hd => exact ⟨h.rolling, hd, hp, h.rxPtrHw, h.rxPtrAppl, hv, hr⟩
  | @notify k cmd hd ht hn hp =>
    have hrun := next_of_rxDataWord k m ⟨hd, ht⟩
    dsimp only at hv hr ⊢
    rw [hrun] at hv hr ⊢
    have hm : Tracks b (m.begin.emit (.recv cmd)) s :=
      h.begin.of_octets (.refl _) rfl rfl h.valid h.respPend
    exact hm.notify ho hp hv hr
  | acquire => exact h.begin.acquire hb ho hlag hv hr
  | release => exact h.begin.release _ hv hr
  | fill => exact h.of_octets (onlyOctets_fillPayload _ _ _ _) rfl rfl hv hr

end Tracks

end

/-! ### Frames handed out -/

/-- The call hands out frame `f`: it succeeds, and leaves the position of the application
just behind `f`, of the frames announced and not passed over before. -/
structure HandsOut (b : ℕ) (p : Machine × FrameStream) (f : ℕ) : Prop where
  succeeds : ∃ i, (dlBufferAcquire true p.1.begin).1 = .ok i
  position : (dlBufferAcquire true p.1.begin).2.buf.rxPtrAppl = position b (f + 1)
  next_le : p.2.next ≤ f
  lt_notified : f < p.2.notified

/-- A call for the next frame, which is one for the stream and for the backend. -/
abbrev acquireDl (k : Kernel) : Step × Input := ((k, .dlBufferAcquire true), .take)

/-- Frame `f` is handed out in the run: some call of `cmtspeech_dl_buffer_acquire` in it gives out
the buffer with this frame. -/
def Handed (b : ℕ) (p : Machine × FrameStream) (run : List (Step × Input)) (f : ℕ) : Prop :=
  ∃ pre k post, run = pre ++ acquireDl k :: post ∧ HandsOut b (dlStream.exec p pre) f

/-- A run within one configuration, with the application less than the boundary behind.  These are
the hypotheses that the results about the stream share; they hold of the rest of a run as of the
whole. -/
structure StreamRun (b : ℕ) (p : Machine × FrameStream) (run : List (Step × Input)) : Prop where
  rolls : RollsAt b
  tracks : Tracks b p.1 p.2
  ordered : p.2.Ordered
  plays : dlStream.Along (fun p i => Plays b p.2 i) p run
  lag : dlStream.Always (fun p => p.2.completed - p.2.next < b) p run

namespace StreamRun

variable {b : ℕ} {p : Machine × FrameStream} {run : List (Step × Input)}

theorem lag_now (h : StreamRun b p run) : p.2.completed - p.2.next < b :=
  h.lag [] List.nil_prefix

theorem tail {i : Step × Input} (h : StreamRun b p (i :: run)) :
    StreamRun b (dlStream.next p i).1 run where
  rolls := h.rolls
  tracks := h.tracks.step h.rolls h.ordered h.lag_now h.plays.1
  ordered := h.ordered.next_read h.plays.1.allowed
  plays := h.plays.2
  lag := ((dlStream.always_cons _ p i run).mp h.lag).2

/-- What comes after a part of the run is a run again, from the state that the part ends in. -/
theorem drop {pre : List (Step × Input)} (h : StreamRun b p (pre ++ run)) :
    StreamRun b (dlStream.exec p pre) run := by
  induction pre generalizing p with
  | nil => exact h
  | cons i pre ih => exact ih h.tail

theorem take {post : List (Step × Input)} (h : StreamRun b p (run ++ post)) :
    StreamRun b p run := by
  refine ⟨h.rolls, h.tracks, h.ordered, ?_, ?_⟩
  · rw [Lts.along_iff_forall_split]
    rintro pre i post' rfl
    exact (dlStream.along_iff_forall_split _ _ _).mp h.plays pre i (post' ++ post) (by simp)
  · intro pre hpre
    exact h.lag pre (hpre.trans (List.prefix_append _ _))

theorem allowed (h : StreamRun b p run) :
    (read dlSlots).Along (fun s i => i.Allowed s) p.2 (run.map Prod.snd) := by
  induction run generalizing p with
  | nil => trivial
  | cons i run ih => exact ⟨h.plays.1.allowed, ih h.tail⟩

/-- The call hands out the frame the stream gives. -/
theorem handsOut_iff (h : StreamRun b p run) {f : ℕ} :
    HandsOut b p f ↔ ∃ o ∈ (p.2.take dlSlots).2, o.frame = f := by
  obtain ⟨hres, -, hpos, -⟩ := h.tracks.begin.dlBufferAcquire_spec h.rolls h.ordered h.lag_now
  have hlag := h.lag_now
  have hc := h.ordered.notified_le
  constructor
  · rintro ⟨⟨i, hi⟩, hp, hle, hlt⟩
    have hn : p.2.notified ≠ 0 := by omega
    rw [hres, acquireResult, if_neg hn] at hi
    cases ho : (p.2.take dlSlots).2 with
    | nil => simp [ho] at hi
    | cons o os =>
      have hmem : o ∈ (p.2.take dlSlots).2 := by simp [ho]
      obtain ⟨hle', hlt', hnext⟩ := h.ordered.handout hmem
      refine ⟨o, List.mem_cons_self, ?_⟩
      -- two frames less than the boundary apart have different positions
      rw [hpos, if_neg hn, hnext] at hp
      have hmod : o.frame + 1 ≡ f + 1 [MOD b] := Int.natCast_inj.mp hp
      have heq := hmod.eq_of_abs_lt (by rw [abs_lt]; omega)
      omega
  · rintro ⟨o, ho, rfl⟩
    obtain ⟨hle, hlt, hnext⟩ := h.ordered.handout ho
    have hn : p.2.notified ≠ 0 := by omega
    refine ⟨?_, ?_, hle, hlt⟩
    · rw [hres, acquireResult, if_neg hn]
      cases hos : (p.2.take dlSlots).2 with
      | nil => simp [hos] at ho
      | cons o' os => exact ⟨_, rfl⟩
    · rw [hpos, if_neg hn, hnext]

/-- The frames handed out in a run are those the stream gives. -/
theorem handed_iff (h : StreamRun b p run) {f : ℕ} :
    Handed b p run f ↔ ∃ o ∈ dlStream.trace p run, o.frame = f := by
  induction run generalizing p with
  | nil => simp [Handed]
  | cons i run ih =>
    rw [Lts.trace_cons]
    constructor
    · rintro ⟨pre, k, post, heq, hf⟩
      cases pre with
      | nil =>
        obtain ⟨rfl, rfl⟩ := List.cons.inj heq
        obtain ⟨o, ho, rfl⟩ := h.handsOut_iff.mp hf
        exact ⟨o, List.mem_append_left _ ho, rfl⟩
      | cons j pre =>
        obtain ⟨rfl, rfl⟩ := List.cons.inj heq
        obtain ⟨o, ho, rfl⟩ := (ih h.tail).mp ⟨pre, k, post, rfl, hf⟩
        exact ⟨o, List.mem_append_right _ ho, rfl⟩
    · rintro ⟨o, ho, rfl⟩
      rcases List.mem_append.mp ho with ho | ho
      · -- a frame is given for a call alone
        have hplay := h.plays.1
        cases hplay with
        | acquire => exact ⟨[], _, run, rfl, h.handsOut_iff.mpr ⟨o, ho, rfl⟩⟩
        | _ => simp [dlStream, Lts.both, FrameStream.read] at ho
      · obtain ⟨pre, k, post, rfl, hf⟩ := (ih h.tail).mpr ⟨o, ho, rfl⟩
        exact ⟨i :: pre, k, post, rfl, hf⟩

end StreamRun

/-! ### A stream that has just been configured -/

/-- The mapped area with a boundary of 6, after `n` frames. -/
def MmapArea.rolling (n : BitVec 32) : MmapArea :=
  { MmapArea.blank with rxPtrBoundary := 6, rxPtr := n }

/-- A kernel that lays out such an area, and whose other answers are successes. -/
def Kernel.rolling : Kernel := { Kernel.accepting with configArea := fun _ => .rolling 0 }

/-- A call with a speech stream that has just been configured. -/
def streamingRun : List Step :=
  [(.rolling, .stateChangeCallStatus true), (.rolling, .recv (msgEncodeSsiConfigResp 1 0)),
    (.rolling, .recv (speechConfigReqMsg true))]

theorem tracks_streaming : Tracks 6 (nokiamodem.exec Machine.fresh streamingRun) start :=
  ⟨by decide, by decide, by decide, by decide, by decide, by decide, by decide⟩

theorem rollsAt_six : RollsAt 6 := ⟨by decide, by decide, by decide⟩

/-! ### Delivery in order -/

/-- The frames of a run from `m` are delivered in order; `b` is the boundary.  Nothing is
delivered twice, what is given out is what the driver has announced, and a frame is passed over
only by a call that resynchronised. -/
structure InOrder (b : ℕ) (m : Machine) (run : List (Step × Input)) : Prop where
  /-- From the first notification on, the application has a position below the boundary. -/
  appl : ∀ pre, pre <+: run →
    (dlStream.exec (m, start) pre).1.buf.rxPtrAppl = -1 ∧
        (dlStream.exec (m, start) pre).2.notified = 0 ∨
      0 < (dlStream.exec (m, start) pre).2.notified ∧
        0 ≤ (dlStream.exec (m, start) pre).1.buf.rxPtrAppl ∧
        (dlStream.exec (m, start) pre).1.buf.rxPtrAppl < b
  /-- The differences of the positions are those of the counts. -/
  differences : ∀ pre, pre <+: run → 0 < (dlStream.exec (m, start) pre).2.notified →
    privRxHwDelay (dlStream.exec (m, start) pre).1 =
        (dlStream.exec (m, start) pre).2.completed - (dlStream.exec (m, start) pre).2.next ∧
      ((privRxPtrAvail (dlStream.exec (m, start) pre).1).toNat : ℤ) =
        if (dlStream.exec (m, start) pre).2.next = (dlStream.exec (m, start) pre).2.notified then
          (b : ℤ) - 1
        else (dlStream.exec (m, start) pre).2.notified - 1 - (dlStream.exec (m, start) pre).2.next
  /-- There is no data when every frame announced was handed out, or passed over by a later
  one. -/
  noData : ∀ pre k post, run = pre ++ acquireDl k :: post →
    ((dlBufferAcquire true (dlStream.exec (m, start) pre).1.begin).1 = .error (-enodata) ↔
      0 < (dlStream.exec (m, start) pre).2.notified ∧
        ∀ f < (dlStream.exec (m, start) pre).2.notified, ∃ g, f ≤ g ∧ Handed b (m, start) pre g)
  /-- A call that succeeds hands out a frame, from the slot of its number. -/
  handsOut : ∀ pre k post, run = pre ++ acquireDl k :: post →
    ∀ i, (dlBufferAcquire true (dlStream.exec (m, start) pre).1.begin).1 = .ok i →
      ∃ f, HandsOut b (dlStream.exec (m, start) pre) f ∧ i = slotOfFrame f
  increasing : ∀ pre k post, run = pre ++ acquireDl k :: post →
    ∀ f g, HandsOut b (dlStream.exec (m, start) pre) f →
      Handed b (dlStream.exec (m, start) (pre ++ [acquireDl k])) post g → f < g
  /-- Between two frames handed out one after the other none is passed over, unless the second
  call resynchronised. -/
  consecutive : ∀ pre k mid k' post,
    run = pre ++ acquireDl k :: (mid ++ acquireDl k' :: post) →
    (∀ g, ¬ Handed b (dlStream.exec (m, start) (pre ++ [acquireDl k])) mid g) →
    ∀ f f', HandsOut b (dlStream.exec (m, start) pre) f →
      HandsOut b (dlStream.exec (m, start) (pre ++ acquireDl k :: mid)) f' →
      f' = f + 1 ∨
        privRxApplSlot (dlStream.exec (m, start) (pre ++ acquireDl k :: mid)).1 = .error (-epipe)

namespace StreamRun

variable {b : ℕ} {p : Machine × FrameStream} {m : Machine} {pre run : List (Step × Input)}

/-- After the call that hands out frame `f`, the next one is wanted. -/
theorem next_of_handsOut {k : Kernel} (h : StreamRun b p (acquireDl k :: run)) {f : ℕ}
    (hf : HandsOut b p f) : (dlStream.next p (acquireDl k)).1.2.next = f + 1 := by
  obtain ⟨o, ho, rfl⟩ := h.handsOut_iff.mp hf
  exact (h.ordered.handout ho).2.2

/-- The frames handed out later are not before the one wanted now. -/
theorem next_le_of_handed (h : StreamRun b p run) {f : ℕ} (hf : Handed b p run f) :
    p.2.next ≤ f := by
  obtain ⟨pre, k, post, rfl, hout⟩ := hf
  have hmono := h.ordered.next_le_exec h.take.allowed
  have hexec : (dlStream.exec p pre).2 = (read dlSlots).exec p.2 (pre.map Prod.snd) := by
    rw [dlStream, Lts.exec_both]
  rw [← hexec] at hmono
  exact hmono.trans hout.next_le

/-- While nothing is handed out, the frame wanted stays. -/
theorem next_of_not_handed (h : StreamRun b p run) (hn : ∀ f, ¬ Handed b p run f) :
    (dlStream.exec p run).2.next = p.2.next := by
  have htrace : dlStream.trace p run = [] := by
    rw [List.eq_nil_iff_forall_not_mem]
    intro o ho
    exact hn o.frame (h.handed_iff.mpr ⟨o, ho, rfl⟩)
  rw [dlStream, Lts.trace_both] at htrace
  rw [dlStream, Lts.exec_both]
  exact exec_next_of_trace_nil htrace

/-- A frame that is not wanted any more was handed out, or passed over. -/
theorem lt_next_iff (h : StreamRun b (m, start) run) (f : ℕ) :
    f < (dlStream.exec (m, start) run).2.next ↔ ∃ g, f ≤ g ∧ Handed b (m, start) run g := by
  have htaken := ordered_start.taken_iff h.allowed (Nat.zero_le f)
  have hexec : (dlStream.exec (m, start) run).2 =
      (read dlSlots).exec start (run.map Prod.snd) := by
    rw [dlStream, Lts.exec_both]
  have htrace : dlStream.trace (m, start) run =
      (read dlSlots).trace start (run.map Prod.snd) := by
    rw [dlStream, Lts.trace_both]
  rw [← hexec, ← htrace] at htaken
  rw [htaken]
  constructor
  · rintro ⟨o, ho, hle⟩
    exact ⟨o.frame, hle, h.handed_iff.mpr ⟨o, ho, rfl⟩⟩
  · rintro ⟨g, hle, hg⟩
    obtain ⟨o, ho, rfl⟩ := h.handed_iff.mp hg
    exact ⟨o, ho, hle⟩

theorem noData_iff (h : StreamRun b p run) :
    (dlBufferAcquire true p.1.begin).1 = .error (-enodata) ↔
      0 < p.2.notified ∧ p.2.next = p.2.notified := by
  obtain ⟨hres, -⟩ := h.tracks.begin.dlBufferAcquire_spec h.rolls h.ordered h.lag_now
  rw [hres, acquireResult]
  split
  · next hz => exact iff_of_false (by decide) (by omega)
  · next hz =>
    rw [and_iff_right (by omega), ← take_eq_nil_iff (k := dlSlots)]
    cases (p.2.take dlSlots).2 with
    | nil => exact iff_of_true rfl rfl
    | cons o os => exact iff_of_false (by simp) (by simp)

theorem handsOut_of_ok (h : StreamRun b p run) {i : Fin dlSlots}
    (hi : (dlBufferAcquire true p.1.begin).1 = .ok i) :
    ∃ f, HandsOut b p f ∧ i = slotOfFrame f := by
  obtain ⟨hres, -⟩ := h.tracks.begin.dlBufferAcquire_spec h.rolls h.ordered h.lag_now
  rw [hres, acquireResult] at hi
  split at hi
  · cases hi
  · cases hos : (p.2.take dlSlots).2 with
    | nil =>
      rw [hos] at hi
      cases hi
    | cons o os =>
      rw [hos] at hi
      refine ⟨o.frame, h.handsOut_iff.mpr ⟨o, by simp [hos], rfl⟩, ?_⟩
      exact (Except.ok.inj hi).symm

/-- The call resynchronises, or hands out the frame wanted. -/
theorem frame_of_handsOut (h : StreamRun b p run) {f : ℕ} (hf : HandsOut b p f) :
    f = p.2.next ∨ privRxApplSlot p.1 = .error (-epipe) := by
  obtain ⟨o, ho, rfl⟩ := h.handsOut_iff.mp hf
  obtain ⟨hle, hlt, -⟩ := h.ordered.handout ho
  cases hr : o.resync with
  | false => exact Or.inl (handout_frame ho hr)
  | true =>
    have hk := (handout_resync ho).mp hr
    right
    rw [h.tracks.privRxApplSlot_eq h.rolls h.ordered (by omega) h.lag_now,
      if_neg (by omega), if_pos hk]

end StreamRun

/-- **Downlink frames are delivered in order**, without duplicates, in every run within one
configuration in which the application stays less than the boundary behind the driver. -/
theorem dlFrames_inOrder {b : ℕ} (hb : RollsAt b) {m : Machine} (hm : Tracks b m start)
    {run : List (Step × Input)}
    (hp : dlStream.Along (fun p i => Plays b p.2 i) (m, start) run)
    (hlag : dlStream.Always (fun p => p.2.completed - p.2.next < b) (m, start) run) :
    InOrder b m run := by
  have hrun : StreamRun b (m, start) run := ⟨hb, hm, ordered_start, hp, hlag⟩
  -- The invariant holds of every part of the run that is left, so each clause is read off at the
  -- place where it speaks.
  have hat {pre post : List (Step × Input)} (heq : run = pre ++ post) :
      StreamRun b (dlStream.exec (m, start) pre) post := (heq ▸ hrun).drop
  have hafter {pre post : List (Step × Input)} {k : Kernel}
      (heq : run = pre ++ acquireDl k :: post) :
      StreamRun b (dlStream.exec (m, start) (pre ++ [acquireDl k])) post :=
    hat (by rw [heq, List.append_assoc]; rfl)
  have hnext {pre post : List (Step × Input)} {k : Kernel} {f : ℕ}
      (heq : run = pre ++ acquireDl k :: post)
      (hf : HandsOut b (dlStream.exec (m, start) pre) f) :
      (dlStream.exec (m, start) (pre ++ [acquireDl k])).2.next = f + 1 := by
    rw [Lts.exec_append]
    exact (hat heq).next_of_handsOut hf
  refine ⟨?_, ?_, ?_, ?_, ?_, ?_⟩
  · rintro pre ⟨post, heq⟩
    have h := hat heq.symm
    have happl := h.tracks.rxPtrAppl
    by_cases hz : (dlStream.exec (m, start) pre).2.notified = 0
    · rw [if_pos hz] at happl
      exact Or.inl ⟨happl, hz⟩
    · rw [if_neg hz] at happl
      rw [happl]
      refine Or.inr ⟨Nat.pos_of_ne_zero hz, Int.natCast_nonneg _, ?_⟩
      exact Int.ofNat_lt.mpr (Nat.mod_lt _ hb.pos)
  · rintro pre ⟨post, heq⟩ hpos
    have h := hat heq.symm
    obtain ⟨h₁, h₂⟩ := h.ordered
    constructor
    · rw [h.tracks.privRxHwDelay_eq hb h.ordered (by omega) h.lag_now]
      omega
    · rw [h.tracks.privRxPtrAvail_eq hb h.ordered (by omega) h.lag_now]
      have hone := hb.one_lt
      split <;> omega
  · intro pre k post heq
    have h := hat heq
    rw [h.noData_iff]
    refine and_congr_right fun hpos => ?_
    constructor
    · intro hall f hf
      exact ((heq ▸ hrun).take.lt_next_iff f).mp (hall ▸ hf)
    · intro hall
      refine le_antisymm h.ordered.next_le (not_lt.mp fun hlt => ?_)
      exact absurd (((heq ▸ hrun).take.lt_next_iff _).mpr (hall _ hlt)) (lt_irrefl _)
  · intro pre k post heq i hi
    exact (hat heq).handsOut_of_ok hi
  · intro pre k post heq f g hf hg
    have hle := (hafter heq).next_le_of_handed hg
    rw [hnext heq hf] at hle
    exact hle
  · intro pre k mid k' post heq hno f f' hf hf'
    have hsplit : run = (pre ++ acquireDl k :: mid) ++ acquireDl k' :: post := by
      rw [heq, List.append_assoc]
      rfl
    -- No frame is given out in between, so the next one is still `f + 1` at the second call.
    have hstay := (hafter heq).take.next_of_not_handed hno
    rw [hnext heq hf, ← Lts.exec_append, List.append_assoc] at hstay
    rcases (hat hsplit).frame_of_handsOut hf' with hf' | hpipe
    · exact Or.inl (hf'.trans hstay)
    · exact Or.inr hpipe

/-- The driver has completed one frame more, and `n` in all, modulo the boundary. -/
def frameDone (n : BitVec 32) : Step × Input := ((.rolling, .driver (.rolling n)), .complete)

/-- The frame at position `p` is announced: the driver's word, and the step of the stream. -/
def frameAnnounced (p : BitVec 8) : Step × Input :=
  ((.rolling, .recv (privMsgEncodeDriverMessage csRxDataReceived p)), .notify)

/-- The application takes the first frame in time, and then falls behind: four more are
complete when it asks again, so it gets the last one announced and loses the one before.  From
there on it keeps up, over the boundary. -/
def resumedRun : List (Step × Input) :=
  [frameDone 1, frameAnnounced 0, acquireDl .rolling, ((.rolling, .dlBufferRelease 0), .idle),
    frameDone 2, frameDone 3, frameDone 4, frameDone 5, frameAnnounced 1, frameAnnounced 2,
    acquireDl .rolling, ((.rolling, .dlBufferRelease 2), .idle),
    frameAnnounced 3, acquireDl .rolling, frameDone 0, frameAnnounced 4, acquireDl .rolling]

theorem plays_resumed : dlStream.Along (fun p i => Plays 6 p.2 i)
    (nokiamodem.exec Machine.fresh streamingRun, start) resumedRun :=
  ⟨.complete (by decide) (by decide), .notify (by decide) (by decide) (by decide) (by decide),
    .acquire, .release, .complete (by decide) (by decide), .complete (by decide) (by decide),
    .complete (by decide) (by decide), .complete (by decide) (by decide),
    .notify (by decide) (by decide) (by decide) (by decide),
    .notify (by decide) (by decide) (by decide) (by decide), .acquire, .release,
    .notify (by decide) (by decide) (by decide) (by decide), .acquire,
    .complete (by decide) (by decide),
    .notify (by decide) (by decide) (by decide) (by decide), .acquire, trivial⟩

/-- The application is never a whole boundary behind, which `privRxHwDelay` could not tell from
being up to date. -/
theorem lag_resumed : dlStream.Always (fun p => p.2.completed - p.2.next < 6)
    (nokiamodem.exec Machine.fresh streamingRun, start) resumedRun := by
  simp only [resumedRun, Lts.always_cons, Lts.always_nil]
  decide

/-- The frames 0, 2, 3 and 4 are handed out, frame 2 by a call that resynchronised. -/
theorem dlFrames_inOrder_resumed :
    InOrder 6 (nokiamodem.exec Machine.fresh streamingRun) resumedRun :=
  dlFrames_inOrder rollsAt_six tracks_streaming plays_resumed lag_resumed

example : dlStream.trace (nokiamodem.exec Machine.fresh streamingRun, start) resumedRun =
    [⟨0, false⟩, ⟨2, true⟩, ⟨3, false⟩, ⟨4, false⟩] := rfl

/-! ### Overruns -/

/-- The driver has completed at most one frame more than it has announced, whenever a frame
is there to be handed out. -/
def KeepsUp (p : Machine × FrameStream) (i : Step × Input) : Prop :=
  (∃ k, i = acquireDl k) → p.2.next < p.2.notified → p.2.completed ≤ p.2.notified + 1

/-- **No overrun frame is handed out** in a run within one configuration, if and only if the
driver never is two frames ahead of the notifications when one is. -/
theorem dlFrames_fresh_iff {b : ℕ} (hb : RollsAt b) {m : Machine} (hm : Tracks b m start)
    {run : List (Step × Input)}
    (hp : dlStream.Along (fun p i => Plays b p.2 i) (m, start) run)
    (hlag : dlStream.Always (fun p => p.2.completed - p.2.next < b) (m, start) run) :
    (∀ pre k post, run = pre ++ acquireDl k :: post →
        ∀ f, HandsOut b (dlStream.exec (m, start) pre) f →
          (dlStream.exec (m, start) pre).2.completed - f < dlSlots) ↔
      dlStream.Along KeepsUp (m, start) run := by
  have hrun : StreamRun b (m, start) run := ⟨hb, hm, ordered_start, hp, hlag⟩
  rw [Lts.along_iff_forall_split]
  constructor
  · rintro h pre i post heq ⟨k, rfl⟩ hlt
    have hat : StreamRun b (dlStream.exec (m, start) pre) (acquireDl k :: post) :=
      (heq ▸ hrun).drop
    -- a frame is there, so the call hands one out
    obtain ⟨o, ho⟩ : ∃ o, o ∈ ((dlStream.exec (m, start) pre).2.take dlSlots).2 := by
      refine List.exists_mem_of_ne_nil _ fun hnil => ?_
      rw [take_eq_nil_iff] at hnil
      omega
    have hfresh := h pre k post heq o.frame (hat.handsOut_iff.mpr ⟨o, ho, rfl⟩)
    rw [hat.ordered.fresh_iff ho] at hfresh
    unfold dlSlots at hfresh
    omega
  · intro h pre k post heq f hf
    have hat : StreamRun b (dlStream.exec (m, start) pre) (acquireDl k :: post) :=
      (heq ▸ hrun).drop
    have hkeeps := h pre _ post heq ⟨k, rfl⟩ (hf.next_le.trans_lt hf.lt_notified)
    obtain ⟨o, ho, rfl⟩ := hat.handsOut_iff.mp hf
    rw [hat.ordered.fresh_iff ho]
    have hle := hat.ordered.notified_le
    unfold dlSlots
    omega

/-- The driver completes four frames while the first notification is on its way. -/
def lateNotificationRun : List (Step × Input) :=
  [((.rolling, .driver (.rolling 1)), .complete), ((.rolling, .driver (.rolling 2)), .complete),
    ((.rolling, .driver (.rolling 3)), .complete), ((.rolling, .driver (.rolling 4)), .complete),
    ((.rolling, .recv (privMsgEncodeDriverMessage csRxDataReceived 0)), .notify),
    acquireDl .rolling]

theorem plays_lateNotification : dlStream.Along (fun p i => Plays 6 p.2 i)
    (nokiamodem.exec Machine.fresh streamingRun, start) lateNotificationRun :=
  ⟨.complete (by decide) (by decide), .complete (by decide) (by decide),
    .complete (by decide) (by decide), .complete (by decide) (by decide),
    .notify (by decide) (by decide) (by decide) (by decide), .acquire, trivial⟩

theorem lag_lateNotification : dlStream.Always (fun p => p.2.completed - p.2.next < 6)
    (nokiamodem.exec Machine.fresh streamingRun, start) lateNotificationRun := by
  simp only [lateNotificationRun, Lts.always_cons, Lts.always_nil]
  decide

/-- A run in which the only frame handed out is one too late. -/
theorem dlFrames_fresh_late :
    (∀ pre k post, lateNotificationRun = pre ++ acquireDl k :: post →
        ∀ f, HandsOut 6 (dlStream.exec (nokiamodem.exec Machine.fresh streamingRun, start) pre) f →
          (dlStream.exec (nokiamodem.exec Machine.fresh streamingRun, start) pre).2.completed - f <
            dlSlots) ↔
      dlStream.Along KeepsUp (nokiamodem.exec Machine.fresh streamingRun, start)
        lateNotificationRun :=
  dlFrames_fresh_iff rollsAt_six tracks_streaming plays_lateNotification lag_lateNotification

/-- The frame handed out after resynchronising is the first one, while the driver writes the
fifth. -/
theorem dlFrames_overrun :
    ¬ ∀ pre k post, lateNotificationRun = pre ++ acquireDl k :: post →
        ∀ f, HandsOut 6 (dlStream.exec (nokiamodem.exec Machine.fresh streamingRun, start) pre) f →
          (dlStream.exec (nokiamodem.exec Machine.fresh streamingRun, start) pre).2.completed - f <
            dlSlots := by
  intro h
  have hout : HandsOut 6 (dlStream.exec (nokiamodem.exec Machine.fresh streamingRun, start)
      (lateNotificationRun.take 5)) 0 :=
    ⟨⟨0, by decide⟩, by decide, by decide, by decide⟩
  exact absurd (h (lateNotificationRun.take 5) .rolling [] rfl 0 hout) (by decide)

end CmtSpeech
