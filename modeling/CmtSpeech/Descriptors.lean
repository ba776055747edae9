import CmtSpeech.DataPath
import CmtSpeech.SpeechConfig

/-!
# Descriptors, and who holds them

A descriptor has a layout, which the application relies on while it holds the buffer, and
two marks: `BUF_LOCKED` while the buffer is held, and `BUF_INVALID` when it is not to be
given out.  `Marks` and `Keeps` say that layouts and marks are left alone, apart from the
buffer a call gives out or takes back; the reply to a `SPEECH_CONFIG_REQ` is the one place
that waits until no buffer is held.

* `Layout`, `BufState.Locked`, `BufState.Invalid` — the parts of a descriptor.
* `Op.acquired`, `Op.released` — the descriptor a call gives out or takes back.
* `replies` — the attempts to write a `SPEECH_CONFIG_RESP`.

## Main results

* `gives_dlBufferAcquire`, `gives_ulBufferAcquire`
* `replies_privSetupAndSendSpeechConfigReply`, `answered_privSetupAndSendSpeechConfigReply`
-/

namespace CmtSpeech

/-! ### The parts of a descriptor -/

/-- Where the frame of a buffer is: the fields of its descriptor that the application reads and
that stay while it holds the buffer. -/
structure Layout where
  data : Ptr
  payload : Ptr
  count : ℤ
  pcount : ℤ
  size : ℤ
  index : ℕ
  deriving DecidableEq

/-- The layout of a buffer: what the application must find unchanged while it holds it. -/
def Buffer.layout {n : ℕ} (bd : Buffer n) : Layout where
  data := bd.data
  payload := bd.payload
  count := bd.count
  pcount := bd.pcount
  size := bd.size
  index := bd.index

/-- The layout `priv_initialize_buffer_descriptor` makes. -/
def Layout.of (slotbuf : Ptr) (slotSize index : ℕ) : Layout where
  data := slotbuf
  payload := slotbuf.add dataHeaderLen
  count := slotSize
  pcount := slotSize - dataHeaderLen
  size := slotSize
  index := index

namespace BufState

variable (b : BufState)

def layout : Slot → Layout
  | .ul i => (b.ulbufdesc i).bd.layout
  | .dl i => (b.dlbufdesc i).bd.layout

def flags : Slot → BitVec 4
  | .ul i => (b.ulbufdesc i).flags
  | .dl i => (b.dlbufdesc i).flags

/-- The application holds the buffer: the backend has given it out, and has not been given it
back. -/
def Locked (s : Slot) : Prop := b.flags s &&& bufLocked ≠ 0

/-- The buffer is not given out, because there is no stream, or because a new one is to be
configured. -/
def Invalid (s : Slot) : Prop := b.flags s &&& bufInvalid ≠ 0

instance (s : Slot) : Decidable (b.Locked s) := inferInstanceAs (Decidable (_ ≠ _))
instance (s : Slot) : Decidable (b.Invalid s) := inferInstanceAs (Decidable (_ ≠ _))

/-- The count of `priv_locked_bufdescs` is 0 when no buffer is held. -/
theorem privLockedBufdescs_eq_zero_iff : privLockedBufdescs b = 0 ↔ ∀ s, ¬ b.Locked s := by
  rw [privLockedBufdescs, Nat.add_eq_zero_iff, List.countP_eq_zero, List.countP_eq_zero]
  constructor
  · rintro ⟨hu, hd⟩ s
    cases s with
    | ul i => simpa [Locked, flags] using hu i (List.mem_finRange i)
    | dl i => simpa [Locked, flags] using hd i (List.mem_finRange i)
  · intro h
    refine ⟨?_, ?_⟩
    · intro i _
      simpa [Locked, flags] using h (.ul i)
    · intro i _
      simpa [Locked, flags] using h (.dl i)

theorem privLockedBufdescs_ne_zero_iff : privLockedBufdescs b ≠ 0 ↔ ∃ s, b.Locked s := by
  rw [Ne, privLockedBufdescs_eq_zero_iff, not_forall_not]

variable {b}

theorem layout_mapFlags (s t : Slot) (f : BitVec 4 → BitVec 4) :
    (b.mapFlags s f).layout t = b.layout t := by
  cases s with
  | ul i =>
    cases t with
    | ul j => by_cases hj : j = i <;> simp [mapFlags, layout, hj]
    | dl j => rfl
  | dl i =>
    cases t with
    | ul j => rfl
    | dl j => by_cases hj : j = i <;> simp [mapFlags, layout, hj]

theorem flags_mapFlags (s t : Slot) (f : BitVec 4 → BitVec 4) :
    (b.mapFlags s f).flags t = if t = s then f (b.flags s) else b.flags t := by
  cases s with
  | ul i =>
    cases t with
    | ul j => by_cases hj : j = i <;> simp [mapFlags, flags, hj]
    | dl j => rfl
  | dl i =>
    cases t with
    | ul j => rfl
    | dl j => by_cases hj : j = i <;> simp [mapFlags, flags, hj]

theorem respPend_mapFlags (s : Slot) (f : BitVec 4 → BitVec 4) :
    (b.mapFlags s f).speechConfigRespPend = b.speechConfigRespPend := by
  cases s <;> rfl

theorem locked_set : ∀ x : BitVec 4, (x ||| bufLocked) &&& bufLocked ≠ 0 := by decide

theorem locked_clear : ∀ x : BitVec 4, (x &&& ~~~bufLocked) &&& bufLocked = 0 := by decide

theorem invalid_of_lock : ∀ x : BitVec 4, (x ||| bufLocked) &&& bufInvalid = x &&& bufInvalid := by
  decide

theorem invalid_of_unlock :
    ∀ x : BitVec 4, (x &&& ~~~bufLocked) &&& bufInvalid = x &&& bufInvalid := by decide

theorem locked_of_invalidate :
    ∀ x : BitVec 4, (x ||| bufInvalid) &&& bufLocked = x &&& bufLocked := by decide

theorem marks_of_xrun : ∀ x : BitVec 4, (x ||| bufXrun) &&& bufLocked = x &&& bufLocked ∧
    (x ||| bufXrun) &&& bufInvalid = x &&& bufInvalid := by decide

theorem marks_of_unxrun : ∀ x : BitVec 4, (x &&& ~~~bufXrun) &&& bufLocked = x &&& bufLocked ∧
    (x &&& ~~~bufXrun) &&& bufInvalid = x &&& bufInvalid := by decide

/-- A buffer is given out: its slot is locked, and its other marks stay. -/
def lock (b : BufState) (s : Slot) : BufState := b.mapFlags s (· ||| bufLocked)

/-- A buffer is taken back: its slot is free, and its other marks stay. -/
def unlock (b : BufState) (s : Slot) : BufState := b.mapFlags s (· &&& ~~~bufLocked)

theorem locked_lock (s t : Slot) : (b.lock s).Locked t ↔ t = s ∨ b.Locked t := by
  rw [Locked, lock, flags_mapFlags]
  by_cases ht : t = s
  · rw [if_pos ht]
    exact iff_of_true (locked_set _) (Or.inl ht)
  · rw [if_neg ht, or_iff_right ht, Locked]

theorem invalid_lock (s t : Slot) : (b.lock s).Invalid t ↔ b.Invalid t := by
  rw [Invalid, lock, flags_mapFlags]
  by_cases ht : t = s
  · rw [if_pos ht, invalid_of_lock, ht, Invalid]
  · rw [if_neg ht, Invalid]

theorem locked_unlock (s t : Slot) : (b.unlock s).Locked t ↔ b.Locked t ∧ t ≠ s := by
  rw [Locked, unlock, flags_mapFlags]
  by_cases ht : t = s
  · rw [if_pos ht]
    exact iff_of_false (not_not.mpr (locked_clear _)) fun h => h.2 ht
  · rw [if_neg ht, and_iff_left ht, Locked]

theorem invalid_unlock (s t : Slot) : (b.unlock s).Invalid t ↔ b.Invalid t := by
  rw [Invalid, unlock, flags_mapFlags]
  by_cases ht : t = s
  · rw [if_pos ht, invalid_of_unlock, ht, Invalid]
  · rw [if_neg ht, Invalid]

end BufState

/-- Layouts and marks are as before.  Between the two states only the contents of frames and the
bookkeeping of errors can have changed. -/
structure Marks (b b' : BufState) : Prop where
  layout : ∀ s, b'.layout s = b.layout s
  locked : ∀ s, b'.Locked s ↔ b.Locked s
  invalid : ∀ s, b'.Invalid s ↔ b.Invalid s
  respPend : b'.speechConfigRespPend = b.speechConfigRespPend

namespace Marks

variable {b b' b'' : BufState}

theorem refl (b : BufState) : Marks b b :=
  ⟨fun _ => rfl, fun _ => Iff.rfl, fun _ => Iff.rfl, rfl⟩

theorem trans (h : Marks b b') (h' : Marks b' b'') : Marks b b'' :=
  ⟨fun s => (h'.layout s).trans (h.layout s), fun s => (h'.locked s).trans (h.locked s),
    fun s => (h'.invalid s).trans (h.invalid s), h'.respPend.trans h.respPend⟩

/-- The two marks of every descriptor are kept, and its layout: the other two marks are free. -/
theorem of_flags (hl : ∀ s, b'.layout s = b.layout s)
    (hf : ∀ s, b'.flags s &&& bufLocked = b.flags s &&& bufLocked ∧
      b'.flags s &&& bufInvalid = b.flags s &&& bufInvalid)
    (hp : b'.speechConfigRespPend = b.speechConfigRespPend) : Marks b b' := by
  refine ⟨hl, ?_, ?_, hp⟩
  · intro s
    rw [BufState.Locked, (hf s).1, BufState.Locked]
  · intro s
    rw [BufState.Invalid, (hf s).2, BufState.Invalid]

/-- The descriptors are left alone, so that all their marks are kept. -/
theorem of_desc (hu : b'.ulbufdesc = b.ulbufdesc) (hd : b'.dlbufdesc = b.dlbufdesc)
    (hp : b'.speechConfigRespPend = b.speechConfigRespPend) : Marks b b' := by
  refine .of_flags ?_ ?_ hp
  · intro s
    cases s with
    | ul i => rw [BufState.layout, hu, BufState.layout]
    | dl i => rw [BufState.layout, hd, BufState.layout]
  · intro s
    cases s with
    | ul i => rw [BufState.flags, hu]; exact ⟨rfl, rfl⟩
    | dl i => rw [BufState.flags, hd]; exact ⟨rfl, rfl⟩

/-- Another mark of one descriptor changes: locked and invalid stay what they were. -/
theorem mapFlags (b : BufState) (s : Slot) {f : BitVec 4 → BitVec 4}
    (hf : ∀ x, f x &&& bufLocked = x &&& bufLocked ∧ f x &&& bufInvalid = x &&& bufInvalid) :
    Marks b (b.mapFlags s f) := by
  refine .of_flags (fun t => BufState.layout_mapFlags s t f) (fun t => ?_)
    (BufState.respPend_mapFlags s f)
  rw [BufState.flags_mapFlags]
  by_cases ht : t = s
  · rw [if_pos ht, ht]
    exact hf _
  · rw [if_neg ht]
    exact ⟨rfl, rfl⟩

theorem lock (h : Marks b b') (s : Slot) : Marks (b.lock s) (b'.lock s) := by
  refine ⟨?_, ?_, ?_, ?_⟩
  · intro t
    rw [BufState.lock, BufState.lock, BufState.layout_mapFlags, BufState.layout_mapFlags, h.layout]
  · intro t
    rw [BufState.locked_lock, BufState.locked_lock, h.locked]
  · intro t
    rw [BufState.invalid_lock, BufState.invalid_lock, h.invalid]
  · rw [BufState.lock, BufState.lock, BufState.respPend_mapFlags, BufState.respPend_mapFlags,
      h.respPend]

theorem unlock (h : Marks b b') (s : Slot) : Marks (b.unlock s) (b'.unlock s) := by
  refine ⟨?_, ?_, ?_, ?_⟩
  · intro t
    rw [BufState.unlock, BufState.unlock, BufState.layout_mapFlags, BufState.layout_mapFlags,
      h.layout]
  · intro t
    rw [BufState.locked_unlock, BufState.locked_unlock, h.locked]
  · intro t
    rw [BufState.invalid_unlock, BufState.invalid_unlock, h.invalid]
  · rw [BufState.unlock, BufState.unlock, BufState.respPend_mapFlags, BufState.respPend_mapFlags,
      h.respPend]

/-- Taking back a buffer that is not held changes nothing of the marks. -/
theorem unlock_of_not_locked {s : Slot} (h : ¬ b.Locked s) : Marks (b.unlock s) b := by
  refine ⟨fun t => (BufState.layout_mapFlags s t _).symm, fun t => ?_,
    fun t => (BufState.invalid_unlock s t).symm, (BufState.respPend_mapFlags s _).symm⟩
  rw [BufState.locked_unlock]
  refine ⟨fun ht => ⟨ht, ?_⟩, fun ht => ht.1⟩
  rintro rfl
  exact h ht

/-- A new uplink descriptor with the layout of the old one. -/
theorem updateUl {i : Fin ulSlots} {d : BufDesc ulSlots} {f : BitVec 4 → BitVec 4}
    (hu : b'.ulbufdesc = Function.update b.ulbufdesc i d) (hd : b'.dlbufdesc = b.dlbufdesc)
    (hp : b'.speechConfigRespPend = b.speechConfigRespPend)
    (hl : d.bd.layout = (b.ulbufdesc i).bd.layout) (hf : d.flags = f (b.ulbufdesc i).flags) :
    Marks (b.mapFlags (.ul i) f) b' := by
  refine .of_flags ?_ ?_ hp
  · intro t
    rw [BufState.layout_mapFlags]
    cases t with
    | ul j => by_cases hj : j = i <;> simp [BufState.layout, hu, hj, hl]
    | dl j => simp [BufState.layout, hd]
  · intro t
    cases t with
    | ul j => by_cases hj : j = i <;> simp [BufState.mapFlags, BufState.flags, hu, hj, hf]
    | dl j => simp [BufState.mapFlags, BufState.flags, hd]

/-- A new downlink descriptor with the layout of the old one. -/
theorem updateDl {i : Fin dlSlots} {d : BufDesc dlSlots} {f : BitVec 4 → BitVec 4}
    (hd : b'.dlbufdesc = Function.update b.dlbufdesc i d) (hu : b'.ulbufdesc = b.ulbufdesc)
    (hp : b'.speechConfigRespPend = b.speechConfigRespPend)
    (hl : d.bd.layout = (b.dlbufdesc i).bd.layout) (hf : d.flags = f (b.dlbufdesc i).flags) :
    Marks (b.mapFlags (.dl i) f) b' := by
  refine .of_flags ?_ ?_ hp
  · intro t
    rw [BufState.layout_mapFlags]
    cases t with
    | ul j => simp [BufState.layout, hu]
    | dl j => by_cases hj : j = i <;> simp [BufState.layout, hd, hj, hl]
  · intro t
    cases t with
    | ul j => simp [BufState.mapFlags, BufState.flags, hu]
    | dl j => by_cases hj : j = i <;> simp [BufState.mapFlags, BufState.flags, hd, hj, hf]

end Marks

/-! ### Calls that give out and take back -/

/-- The buffer a call gives out, read off the call's own result; none when it fails. -/
def Op.acquired (m : Machine) : Op → Option Slot
  | .dlBufferAcquire buf => (CmtSpeech.dlBufferAcquire buf m.begin).1.toOption.map .dl
  | .ulBufferAcquire buf => (CmtSpeech.ulBufferAcquire buf m.begin).1.toOption.map .ul
  | _ => none

/-- The descriptor a call takes back: the library goes by the index in the buffer, and not by
where the application found it. -/
def Op.released (b : BufState) : Op → Option Slot
  | .dlBufferRelease i => some (.dl (b.dlbufdesc i).bd.index)
  | .ulBufferRelease (some i) => some (.ul (b.ulbufdesc i).bd.index)
  | _ => none

/-- The descriptors after an operation that rewrites none: apart from the buffer given out
or taken back they are as before. -/
structure Keeps (m : Machine) (op : Op) (b' : BufState) : Prop where
  layout : ∀ s, b'.layout s = m.buf.layout s
  locked : ∀ s, b'.Locked s ↔
    op.acquired m = some s ∨ m.buf.Locked s ∧ op.released m.buf ≠ some s
  invalid : ∀ s, b'.Invalid s ↔ m.buf.Invalid s
  valid : ∀ s, op.acquired m = some s → ¬ m.buf.Invalid s
  respPend : b'.speechConfigRespPend = m.buf.speechConfigRespPend

namespace Marks

variable {m : Machine} {op : Op} {b' : BufState} {s : Slot}

theorem keeps (h : Marks m.buf b') (ha : op.acquired m = none) (hr : op.released m.buf = none) :
    Keeps m op b' := by
  refine ⟨h.layout, ?_, h.invalid, ?_, h.respPend⟩
  · intro s
    rw [h.locked, ha, hr]
    simp
  · intro s hs
    rw [ha] at hs
    cases hs

theorem keeps_acquired (h : Marks (m.buf.lock s) b') (hv : ¬ m.buf.Invalid s)
    (ha : op.acquired m = some s) (hr : op.released m.buf = none) : Keeps m op b' := by
  refine ⟨?_, ?_, ?_, ?_, ?_⟩
  · intro t
    rw [h.layout, BufState.lock, BufState.layout_mapFlags]
  · intro t
    rw [h.locked, BufState.locked_lock, ha, hr]
    simp [eq_comm]
  · intro t
    rw [h.invalid, BufState.invalid_lock]
  · intro t ht
    rw [ha] at ht
    cases ht
    exact hv
  · rw [h.respPend, BufState.lock, BufState.respPend_mapFlags]

theorem keeps_released (h : Marks (m.buf.unlock s) b') (ha : op.acquired m = none)
    (hr : op.released m.buf = some s) : Keeps m op b' := by
  refine ⟨?_, ?_, ?_, ?_, ?_⟩
  · intro t
    rw [h.layout, BufState.unlock, BufState.layout_mapFlags]
  · intro t
    rw [h.locked, BufState.locked_unlock, ha, hr]
    simp [eq_comm]
  · intro t
    rw [h.invalid, BufState.invalid_unlock]
  · intro t ht
    rw [ha] at ht
    cases ht
  · rw [h.respPend, BufState.unlock, BufState.respPend_mapFlags]

end Marks

/-- A call that gives out buffer `slot i` or refuses.  When it gives the buffer out, the buffer
was not invalid, and it is held afterwards; a refusal changes no mark. -/
inductive Gives {n : ℕ} (slot : Fin n → Slot) (m : Machine) (r : Except ℤ (Fin n) × Machine) :
    Prop
  | refused (h : r.1.toOption = none) (hb : Marks m.buf r.2.buf) (hl : r.2.dataLog = m.dataLog)
  | given (i : Fin n) (h : r.1.toOption = some i) (hv : ¬ m.buf.Invalid (slot i))
      (hb : Marks (m.buf.lock (slot i)) r.2.buf) (hl : r.2.dataLog = m.dataLog)

theorem Gives.keeps {n : ℕ} {slot : Fin n → Slot} {m : Machine} {r : Except ℤ (Fin n) × Machine}
    (h : Gives slot m.begin r) {op : Op} (ha : op.acquired m = r.1.toOption.map slot)
    (hr : op.released m.buf = none) : Keeps m op r.2.buf ∧ r.2.dataLog = [] := by
  cases h with
  | refused h hb hl =>
    rw [h] at ha
    exact ⟨Marks.keeps (m := m) hb ha hr, hl⟩
  | given i h hv hb hl =>
    rw [h] at ha
    exact ⟨Marks.keeps_acquired (m := m) hb hv ha hr, hl⟩

section
variable (k : Kernel) (m : Machine)

theorem gives_dlBufferAcquire_acquire (buf : Bool) (slot : Fin dlSlots) :
    Gives .dl m (dlBufferAcquire.acquire buf m slot) := by
  have hbump : Marks m.buf (privBumpRxPtrAppl m).buf := .of_desc rfl rfl rfl
  unfold dlBufferAcquire.acquire
  dsimp only
  split
  · exact .refused rfl hbump rfl
  · next hv =>
    split
    · exact .refused rfl hbump rfl
    · refine .given slot rfl hv ?_ ?_
      · split <;> exact (buf_copyDlFrame _ _ _).symm ▸ .updateDl rfl rfl rfl rfl rfl
      · have hcopy (m' : Machine) (bd : Buffer dlSlots) :
            (copyDlFrame slot bd m').dataLog = m'.dataLog := by
          obtain ⟨d, -, heq⟩ := copyDlFrame_eq slot bd m'
          rw [heq]
          rfl
        split <;> exact hcopy _ _

theorem gives_dlBufferAcquire (buf : Bool) : Gives .dl m (dlBufferAcquire buf m) := by
  unfold dlBufferAcquire
  split
  · exact .refused rfl (.refl _) rfl
  · split
    · split
      · have hptr : Marks m.buf (m.modBuf fun b => { b with rxPtrAppl := b.rxPtrHw }).buf :=
          .of_desc rfl rfl rfl
        -- resynchronising leaves the descriptors alone
        cases gives_dlBufferAcquire_acquire
          (m.modBuf fun b => { b with rxPtrAppl := b.rxPtrHw }) buf (dlSlotOf m.buf.rxPtrHw) with
        | refused h hb hl => exact .refused h (hptr.trans hb) hl
        | given i h hv hb hl =>
          exact .given i h hv ((hptr.lock _).trans hb) hl
      · exact .refused rfl (.refl _) rfl
    · exact gives_dlBufferAcquire_acquire m buf _

theorem gives_ulBufferAcquire (buf : Bool) : Gives .ul m (ulBufferAcquire buf m) := by
  unfold ulBufferAcquire
  split
  · exact .refused rfl (.refl _) rfl
  · split
    · exact .refused rfl (.refl _) rfl
    · next slot hs =>
      dsimp only
      split
      · exact .refused rfl (.refl _) rfl
      · next hv =>
        split
        · exact .refused rfl (.refl _) rfl
        · split
          · exact .refused rfl (.refl _) rfl
          · exact .given slot rfl hv (.updateUl rfl rfl rfl rfl rfl) rfl

end

/-! ### A new layout, and the reply -/

/-- The attempts to write a `SPEECH_CONFIG_RESP` in a trace.  An attempt counts whether or not the
kernel takes the message. -/
def replies (out : List Obs) : ℕ := out.countP Obs.isReply

theorem replies_append (xs ys : List Obs) : replies (xs ++ ys) = replies xs + replies ys :=
  List.countP_append

theorem replies_configBufs (n : ℕ) (r : ℤ) : replies [.configBufs n r] = 0 := rfl

theorem replies_filter (out : List Obs) : replies (out.filter Obs.dataPath) = replies out := by
  rw [replies, List.countP_filter, replies]
  refine List.countP_congr ?_
  intro o _
  cases o <;> simp [Obs.isReply, Obs.dataPath]

/-- No buffer is held and no reply is owed.  So it is when the reply has been made, and after a
reset. -/
structure BufState.Answered (b : BufState) : Prop where
  free : ∀ s, ¬ b.Locked s
  respPend : b.speechConfigRespPend = false

theorem BufState.not_locked_of_flags {b : BufState} {s : Slot} (h : b.flags s = 0) :
    ¬ b.Locked s := by
  rw [BufState.Locked, h]
  decide

theorem BufState.locked_invalidate (b : BufState) (s : Slot) :
    (privInvalidateBufferSlots b).Locked s ↔ b.Locked s := by
  have hf : (privInvalidateBufferSlots b).flags s = b.flags s ||| bufInvalid := by cases s <;> rfl
  rw [BufState.Locked, hf, BufState.locked_of_invalidate, BufState.Locked]

theorem BufState.invalid_invalidate (b : BufState) (s : Slot) :
    (privInvalidateBufferSlots b).Invalid s := by
  have hf : (privInvalidateBufferSlots b).flags s = b.flags s ||| bufInvalid := by cases s <;> rfl
  rw [BufState.Invalid, hf]
  exact invalid_set _

theorem answered_reset : privResetBufStateToDisconnected.Answered := by
  refine ⟨?_, rfl⟩
  intro s
  rw [privResetBufStateToDisconnected, BufState.locked_invalidate]
  exact BufState.not_locked_of_flags (by cases s <;> rfl)

section
variable (k : Kernel) (m : Machine)

/-- The driver is asked once, for the slot size of the instance. -/
theorem dataLog_privSetupDriverBufconfig : ∃ r,
    (privSetupDriverBufconfig k m).2.dataLog = m.dataLog ++ [.configBufs m.buf.slotSize r] := by
  have hout (m : Machine) : ∃ r, (privSetupDriverBufconfigV2api k m).2.out =
      m.out ++ [.configBufs m.buf.slotSize r] := by
    simp only [privSetupDriverBufconfigV2api]
    split
    · split <;> split <;> exact ⟨_, rfl⟩
    · exact ⟨_, rfl⟩
  unfold privSetupDriverBufconfig
  generalize hm : m.modBuf _ = m₁
  have hz : m₁.buf.slotSize = m.buf.slotSize := by
    rw [← hm, Machine.modBuf_buf]
    split
    · next hz => exact hz.symm
    · rfl
  have ho : m₁.out = m.out := by rw [← hm, Machine.modBuf_out]
  obtain ⟨r, hr⟩ := hout m₁
  refine ⟨r, ?_⟩
  rw [Machine.dataLog, hr, hz, ho, List.filter_append]
  rfl

/-- The descriptors are laid out when the driver accepts. -/
theorem privSetupDriverBufconfigV2api_cases :
    (privSetupDriverBufconfigV2api k m).2.buf = m.buf ∨
      ∃ area, (privSetupDriverBufconfigV2api k m).2.buf = m.buf.laidOut area := by
  simp only [privSetupDriverBufconfigV2api]
  split
  · split
    · split
      · exact Or.inr ⟨_, rfl⟩
      · exact Or.inl rfl
    · split
      · exact Or.inr ⟨_, rfl⟩
      · exact Or.inl rfl
  · exact Or.inl rfl

/-- A new configuration gives out no buffer and owes no reply. -/
theorem privSetupDriverBufconfig_keeps :
    (∀ s, (privSetupDriverBufconfig k m).2.buf.Locked s → m.buf.Locked s) ∧
      ((privSetupDriverBufconfig k m).2.buf.speechConfigRespPend = true →
        m.buf.speechConfigRespPend = true) := by
  unfold privSetupDriverBufconfig
  generalize hm : m.modBuf _ = m₁
  have h₁ : (∀ s, m₁.buf.Locked s → m.buf.Locked s) ∧
      (m₁.buf.speechConfigRespPend = true → m.buf.speechConfigRespPend = true) := by
    rw [← hm, Machine.modBuf_buf]
    split
    · refine ⟨fun s hs => absurd hs (answered_reset.free s), ?_⟩
      intro hp
      rw [answered_reset.respPend] at hp
      cases hp
    -- A new size for slots that are in use moves the positions and no flag.
    · have hk : Marks m.buf { m.buf with
          ulErrors := 0, rxPtrHw := -1, rxPtrAppl := -1, ulSlotApp := some 0 } :=
        .of_desc rfl rfl rfl
      exact ⟨fun s => (hk.locked s).mp, fun hp => hp⟩
  rcases privSetupDriverBufconfigV2api_cases k m₁ with hb | ⟨area, hb⟩
  · rw [hb]
    exact h₁
  · rw [hb]
    refine ⟨fun s hs => absurd hs ?_, h₁.2⟩
    exact BufState.not_locked_of_flags (by cases s <;> rfl)

/-- A reset asks the driver for slot size 0, whatever has become of the writes of the reset. -/
theorem dataLog_privSendReset :
    ∃ r, (privSendReset k m).2.dataLog = m.dataLog ++ [.configBufs 0 r] := by
  have hreq : NotReply msgEncodeResetConnReq := notReply_of_type (by decide)
  have hq : Quiet m (if (privAcquireWakeline k wakelineReset m).1 = 0 then
      if (privWrite k msgEncodeResetConnReq (privAcquireWakeline k wakelineReset m).2).1 < 0 then
        privReleaseWakeline k wakelineReset
          (privWrite k msgEncodeResetConnReq (privAcquireWakeline k wakelineReset m).2).2
      else privWrite k msgEncodeResetConnReq (privAcquireWakeline k wakelineReset m).2
      else privAcquireWakeline k wakelineReset m).2 := by
    have ha := quiet_privAcquireWakeline k m wakelineReset
    have hw := ha.trans (quiet_privWrite k _ hreq)
    split
    · split
      · exact hw.trans (quiet_privReleaseWakeline k _ _)
      · exact hw
    · exact ha
  rw [← hq.log]
  exact dataLog_privSetupDriverBufconfig k _

theorem dataLog_privWrite_resp (result : BitVec 8) :
    (privWrite k (msgEncodeSpeechConfigResp result) m).2.dataLog =
      m.dataLog ++ [.write (msgEncodeSpeechConfigResp result) (k.write m.tick)] := by
  have hr : (Obs.write (msgEncodeSpeechConfigResp result) (k.write m.tick)).dataPath = true := by
    simp [Obs.dataPath, Obs.isReply]
  rw [(quiet_privWrite_sysWrite k m _).log, sysWrite, Machine.dataLog, Machine.syscall_out,
    List.filter_append, List.filter_singleton, hr]
  rfl

/-- The reply is tried once, whether the driver takes the layout or refuses it. -/
theorem replies_privSetupAndSendSpeechConfigReply :
    replies (privSetupAndSendSpeechConfigReply k m).2.dataLog = replies m.dataLog + 1 := by
  rw [privSetupAndSendSpeechConfigReply]
  obtain ⟨r, hc⟩ := dataLog_privSetupDriverBufconfig k
    (m.modBuf fun b => { b with speechConfigRespPend := false })
  generalize privSetupDriverBufconfig k
    (m.modBuf fun b => { b with speechConfigRespPend := false }) = c at hc ⊢
  have hw (result : BitVec 8) :
      replies (privWrite k (msgEncodeSpeechConfigResp result) c.2).2.dataLog =
        replies m.dataLog + 1 := by
    rw [dataLog_privWrite_resp, hc, replies_append, replies_append, replies_configBufs]
    simp [replies, Obs.isReply, Machine.dataLog]
  split
  · obtain ⟨r', hs⟩ := dataLog_privSendReset k
      ((privWrite k (msgEncodeSpeechConfigResp 1) c.2).2.modBuf privInvalidateBufferSlots)
    dsimp only
    rw [hs, replies_append, replies_configBufs]
    exact hw 1
  · exact hw _

/-- After the reply every buffer is free, and no reply is pending any more. -/
theorem answered_privSetupAndSendSpeechConfigReply (h : ∀ s, ¬ m.buf.Locked s) :
    (privSetupAndSendSpeechConfigReply k m).2.buf.Answered := by
  rw [privSetupAndSendSpeechConfigReply]
  split
  · rw [buf_privSendReset]
    exact answered_reset
  · rw [buf_privWrite]
    obtain ⟨hl, hp⟩ := privSetupDriverBufconfig_keeps k
      (m.modBuf fun b => { b with speechConfigRespPend := false })
    refine ⟨fun s hs => h s (hl s hs), ?_⟩
    exact Bool.eq_false_iff.mpr fun ht => Bool.false_ne_true (hp ht)

end

/-- While buffers are held, an operation comes to the reply exactly when one is deferred and
it takes back the last buffer. -/
theorem comesToReply_iff {b : BufState} (hl : privLockedBufdescs b ≠ 0) (op : Op) :
    ComesToReply b op ↔ b.speechConfigRespPend = true ∧
      ∃ s, op.released b = some s ∧ privLockedBufdescs (b.unlock s) = 0 := by
  cases op with
  | checkPending flags word =>
    refine iff_of_false ?_ (by simp [Op.released])
    match flags, word with
    | true, some cmd => exact fun h => hl h.2
    | true, none => exact id
    | false, _ => exact id
  | dlBufferRelease i =>
    constructor
    · rintro ⟨-, hp, h0⟩
      exact ⟨hp, _, rfl, h0⟩
    · rintro ⟨hp, s, hs, h0⟩
      cases hs
      refine ⟨?_, hp, h0⟩
      -- the last buffer held is the one taken back
      obtain ⟨t, ht⟩ := (BufState.privLockedBufdescs_ne_zero_iff b).mp hl
      have hn := (BufState.privLockedBufdescs_eq_zero_iff _).mp h0 t
      rw [BufState.locked_unlock, not_and, not_not] at hn
      obtain rfl := hn ht
      exact ht
  | ulBufferRelease buf =>
    cases buf with
    | none => exact iff_of_false id (by simp [Op.released])
    | some i =>
      constructor
      · rintro ⟨hp, h0⟩
        exact ⟨hp, _, rfl, h0⟩
      · rintro ⟨hp, s, hs, h0⟩
        cases hs
        exact ⟨hp, h0⟩
  | _ => exact iff_of_false id (by simp [Op.released])

end CmtSpeech
