import CmtSpeech.Codec
import CmtSpeech.DummySession

/-!
# The downlink of the dummy backend

The thread fills the five slots of the downlink in turn, whether the application has given them
back or not.  It moves `dl_buf_idx` first and fills the slot sample by sample afterwards: from the
one to the end of the other there is no telling what is in the slot, so nothing is said here of the
slot of a frame that is being made.

* `HoldsFrame` — a slot holds a frame of the tone.
* `DummySystem.FrameStep` — what a step of the system does about the frames.
* `Frames` — what the slots hold when `n` frames have been made.
* `Timed`, `Paced` — the timer when `n` frames have been made.

## Main results

* `dummySystem_dlSlots` — the last five frames are in the slots, but for the one that the next
  frame is being put over.
* `dummySystem_dlAcquired` — how long the application has the frame it has got.
* `dummySystem_framesPaced` — a frame is not made long before its time.
-/

namespace CmtSpeech

/-- How many samples there are in a frame, of two octets each. -/
abbrev frameSamples : ℕ := salFrameSizeOctets / 2

/-- The first word in memory, as the header is stored there. -/
def Octets.word (mem : Octets) : Cmd := ⟨mem 3, mem 2, mem 1, mem 0⟩

/-- The slot holds frame `m` of the tone: its number in the header, and the samples that follow
those of the frames before. -/
structure HoldsFrame (tone : DummyTone) (m : ℕ) (slot : ToneSlot) : Prop where
  header : msgDecodeDlDataHeaderV5 dataHeaderLen slot.data.word =
    some (DummyTone.header (BitVec.ofNat 16 m))
  samples : slot.data.samples 2 frameSamples =
    (List.range' (frameSamples * m) frameSamples).map tone.played
  count : slot.count = (dataHeaderLen + salFrameSizeOctets : ℕ)
  pcount : slot.pcount = salFrameSizeOctets

/-- The numbers of two frames in one slot differ by a multiple of what the header has room for. -/
theorem HoldsFrame.emod_eq {tone : DummyTone} {m m' : ℕ} {slot : ToneSlot}
    (h : HoldsFrame tone m slot) (h' : HoldsFrame tone m' slot) : m % 2 ^ 16 = m' % 2 ^ 16 := by
  have hheader := Option.some.inj (h.header.symm.trans h'.header)
  have hcounter : BitVec.ofNat 16 m = BitVec.ofNat 16 m' :=
    congrArg DlDataHeader.frameCounter hheader
  rw [← BitVec.toNat_ofNat, ← BitVec.toNat_ofNat, hcounter]

/-! ### One frame -/

namespace DummyTone

variable {tone : DummyTone}

theorem after_zero (h : tone.tonePos = 0) : tone.after 0 = tone := by
  obtain ⟨buf, len, pos⟩ := tone
  obtain rfl : pos = 0 := h
  unfold after
  rw [Nat.cast_zero, Int.zero_emod]

/-- The position only counts within the tone, and the frames are counted without an end. -/
theorem tonePos_add_emod (h : 0 < tone.period) (m n : ℕ) :
    (((tone.after m).tonePos.toNat + n : ℕ) : ℤ) % tone.period =
      ((m + n : ℕ) : ℤ) % tone.period := by
  have hpos : 0 ≤ (m : ℤ) % tone.period := Int.emod_nonneg _ h.ne'
  rw [Nat.cast_add, Nat.cast_add, after_tonePos, Int.toNat_of_nonneg hpos, Int.emod_add_emod]

theorem after_tonePos_add (h : 0 < tone.period) (m n : ℕ) :
    (tone.after m).after ((tone.after m).tonePos.toNat + n) = tone.after (m + n) :=
  congrArg (DummyTone.mk tone.toneBuf tone.toneLen) (tonePos_add_emod h m n)

/-- The samples from the position on are those that the tone has not played yet. -/
theorem played_range' (h : 0 < tone.period) (m n : ℕ) :
    (List.range' (tone.after m).tonePos.toNat n).map (tone.after m).played =
      (List.range' m n).map tone.played := by
  rw [List.range'_eq_map_range, List.range'_eq_map_range, List.map_map, List.map_map]
  refine List.map_congr_left fun j _ => ?_
  exact congrArg tone.toneBuf.sample (tonePos_add_emod h m j)

theorem inRange_header (counter : BitVec 16) : (header counter).InRange where
  spcFlags := show spcFlagsSpeech.toNat < 2 ^ 7 by decide
  dataLength := show dataLength20ms.toNat < 2 ^ 2 by decide
  sampleRate := show sampleRate16khz.toNat < 2 ^ 2 by decide
  codecSampleRate := show sampleRateNone.toNat < 2 ^ 2 by decide
  dataType := show dataTypeValid.toNat < 2 ^ 2 by decide

/-- The header of a frame is read as it was written. -/
theorem word_slotData (slot : ToneSlot) (counter : BitVec 16) {mem : Octets}
    (h : ∀ o, o < 4 → mem o = slotData slot counter o) :
    msgDecodeDlDataHeaderV5 dataHeaderLen mem.word = some (header counter) := by
  have hlen : (4 : ℤ) ≤ dataHeaderLen := by decide
  have hround := msgDecode_msgEncodeDlDataHeaderV5 hlen (inRange_header counter)
  obtain ⟨buf, hbuf, hdecoded⟩ := Option.bind_eq_some_iff.mp hround
  have hword : mem.word = buf := by
    unfold Octets.word
    rw [h 3 (by decide), h 2 (by decide), h 1 (by decide), h 0 (by decide), slotData, hbuf]
    rfl
  rw [hword, hdecoded]
  rfl

/-- A slot is filled with the next frame: its number in the header, and the samples that come
next. -/
theorem fillBufferSlot_after (h : 0 < tone.period) (n : ℕ) {slot : ToneSlot}
    (hsize : slot.size = (dataHeaderLen + salFrameSizeOctets : ℕ)) :
    ∃ slot' : ToneSlot,
      ((tone.after (frameSamples * n)).fillBufferSlot slot (BitVec.ofNat 16 n)).2 =
        some (tone.after (frameSamples * (n + 1)), slot') ∧
      HoldsFrame tone n slot' ∧ slot'.size = slot.size := by
  have hcount : slotSamples slot = frameSamples := by
    rw [slotSamples, hsize]
    rfl
  obtain ⟨buf, hfill, hsamples, hheader⟩ :=
    fillBufferSlot_of_inTone (inTone_after h (frameSamples * n)) slot (BitVec.ofNat 16 n)
  rw [hcount, after_tonePos_add h, ← Nat.mul_succ] at hfill
  rw [hcount, played_range' h] at hsamples
  refine ⟨_, hfill, ⟨word_slotData slot _ hheader, hsamples, hsize, ?_⟩, rfl⟩
  show slot.size - dataHeaderLen = salFrameSizeOctets
  rw [hsize]
  rfl

end DummyTone

/-! ### The slots -/

/-- A slot has been filled: the one whose number it is. -/
def SystemObs.filledSlot : SystemObs → Option (Fin salBufferSlots)
  | .filled i => some i
  | _ => none

/-- The time when a frame was due, as the clock showed it to the thread. -/
def SystemObs.dueTime : SystemObs → Option Timespec
  | .frame now => some now
  | _ => none

/-- What the frames depend on is left alone; a slot may be locked or not.  Every step of the
system is of this kind, but for those of the thread that make a frame or set the timer. -/
structure DummySystem.SameFrames (w w' : DummySystem) : Prop where
  tone : w'.tone = w.tone
  dlFrameCounter : w'.dlFrameCounter = w.dlFrameCounter
  dlBufIdx : w'.dlBufIdx = w.dlBufIdx
  fill_iff : w'.threadPc = .fill ↔ w.threadPc = .fill
  slots : ∀ i, (w'.dlBuffers i).toToneSlot = (w.dlBuffers i).toToneSlot
  pollTimer : w'.pollTimer = { w.pollTimer with prepoll := w'.pollTimer.prepoll }

/-- A step of the system, so far as the frames are concerned: nothing is done about them, the next
one is due, or it is made. -/
inductive DummySystem.FrameStep (w : DummySystem) :
    SystemOp → DummySystem × List SystemObs → Prop where
  | keeps {op : SystemOp} {r : DummySystem × List SystemObs} (h : w.SameFrames r.1)
      (hout : ∀ o ∈ r.2, o.filledSlot = none ∧ o.dueTime = none) : FrameStep w op r
  | due (env : ThreadEnv) (hpc : w.threadPc ≠ .fill)
      (helapsed : w.pollTimer.isElapsed env.isElapsedNow 5000000 = true) :
      FrameStep w (.threadStep env)
        ({ w with dlBufIdx := w.dlBufIdx + 1, threadPc := .fill }, [.frame env.isElapsedNow])
  | fill (env : ThreadEnv) (hpc : w.threadPc = .fill) :
      FrameStep w (.threadStep env) (w.fillSlot env, [.filled w.dlBufIdx])

/-- The slot the `n`-th frame comes to: the slots are filled in turn, the second one first. -/
def frameSlot (n : ℕ) : Fin salBufferSlots := Fin.ofNat salBufferSlots (n + 1)

theorem val_frameSlot (n : ℕ) : (frameSlot n : ℕ) = (n + 1) % 5 := rfl

/-- `n` frames of the tone have been made, and the last five of them are in their slots.  While
the thread is about to fill a slot, it has advanced the index to it already; the slot is then
filled in one step of the model, so what is said of it until then is not said of the memory of the
program, and the results speak of the other four. -/
structure Frames (tone : DummyTone) (w : DummySystem) (n : ℕ) : Prop where
  period : 0 < tone.period
  tone_eq : w.tone.toDummyTone = tone.after (frameSamples * n)
  dlFrameCounter : w.dlFrameCounter = BitVec.ofNat 16 n
  dlBufIdx : (w.dlBufIdx : ℕ) = (n + if w.threadPc = .fill then 1 else 0) % 5
  size : ∀ i, (w.dlBuffers i).size = (dataHeaderLen + salFrameSizeOctets : ℕ)
  slots : ∀ m, m < n → n ≤ m + 5 →
    HoldsFrame tone m (w.dlBuffers (frameSlot m)).toToneSlot

namespace Frames

variable {tone : DummyTone} {w w' : DummySystem} {n : ℕ}

/-- Where nothing is done about the frames, as many have been made and they lie where they lay. -/
theorem same (h : Frames tone w n) (hw : w.SameFrames w') : Frames tone w' n where
  period := h.period
  tone_eq := by rw [hw.tone, h.tone_eq]
  dlFrameCounter := by rw [hw.dlFrameCounter, h.dlFrameCounter]
  dlBufIdx := by simp only [hw.dlBufIdx, h.dlBufIdx, hw.fill_iff]
  size i := by rw [hw.slots, h.size]
  slots m hm hn := by
    rw [hw.slots]
    exact h.slots m hm hn

/-- The thread goes on to the next slot: `dl_buf_idx` is moved, and the slot has still its old
frame. -/
theorem due (h : Frames tone w n) (hpc : w.threadPc ≠ .fill) :
    Frames tone { w with dlBufIdx := w.dlBufIdx + 1, threadPc := .fill } n where
  period := h.period
  tone_eq := h.tone_eq
  dlFrameCounter := h.dlFrameCounter
  dlBufIdx := by
    have hidx := h.dlBufIdx
    rw [if_neg hpc] at hidx
    rw [if_pos rfl]
    show ((w.dlBufIdx + 1 : Fin 5) : ℕ) = _
    rw [Fin.val_add, hidx]
    simp
  size := h.size
  slots := h.slots

/-- The frame is made: the slot that `dl_buf_idx` was moved to has the next frame, and the four
before it have theirs. -/
theorem filled (h : Frames tone w n) (hpc : w.threadPc = .fill) (env : ThreadEnv) :
    w.dlBufIdx = frameSlot n ∧ Frames tone (w.fillSlot env) (n + 1) := by
  have hidx : w.dlBufIdx = frameSlot n := by
    apply Fin.ext
    rw [h.dlBufIdx, if_pos hpc, val_frameSlot]
  refine ⟨hidx, ?_⟩
  obtain ⟨slot, hfill, hholds, hsize⟩ :=
    DummyTone.fillBufferSlot_after h.period n (h.size w.dlBufIdx)
  rw [← h.tone_eq, ← h.dlFrameCounter] at hfill
  have hget := Option.get_of_eq_some
    (w.tone.isSome_fill (w.dlBuffers w.dlBufIdx).toToneSlot w.dlFrameCounter) hfill
  have hslot : (w.tone.fill (w.dlBuffers w.dlBufIdx).toToneSlot w.dlFrameCounter).2 = slot :=
    congrArg Prod.snd hget
  refine ⟨h.period, congrArg Prod.fst hget, ?_, ?_, ?_, ?_⟩
  · show w.dlFrameCounter + 1 = BitVec.ofNat 16 (n + 1)
    rw [h.dlFrameCounter, BitVec.ofNat_add]
    rfl
  · show (w.dlBufIdx : ℕ) = _
    rw [hidx, val_frameSlot]
    rfl
  · intro i
    show (Function.update w.dlBuffers w.dlBufIdx _ i).size = _
    by_cases hi : i = w.dlBufIdx
    · rw [hi, Function.update_self]
      show (w.tone.fill _ _).2.size = _
      rw [hslot, hsize, h.size]
    · rw [Function.update_of_ne hi, h.size]
  · intro m hm hn
    show HoldsFrame tone m (Function.update w.dlBuffers w.dlBufIdx _ (frameSlot m)).toToneSlot
    by_cases hmn : m = n
    · rw [hmn, hidx, Function.update_self]
      rw [hidx] at hslot
      show HoldsFrame tone n (w.tone.fill _ _).2
      rwa [hslot]
    · -- the five slots before it are others
      have hne : frameSlot m ≠ w.dlBufIdx := by
        rw [hidx]
        intro heq
        have hval : (m + 1) % 5 = (n + 1) % 5 := congrArg Fin.val heq
        omega
      rw [Function.update_of_ne hne]
      exact h.slots m (by omega) (by omega)

end Frames

/-! ### Steps -/

namespace DummySystem

variable {w w' : DummySystem}

theorem SameFrames.refl (w : DummySystem) : w.SameFrames w :=
  ⟨rfl, rfl, rfl, Iff.rfl, fun _ => rfl, rfl⟩

theorem SameFrames.of_eq (htone : w'.tone = w.tone)
    (hcounter : w'.dlFrameCounter = w.dlFrameCounter) (hidx : w'.dlBufIdx = w.dlBufIdx)
    (hpc : w'.threadPc = w.threadPc) (hslots : w'.dlBuffers = w.dlBuffers)
    (htimer : w'.pollTimer = w.pollTimer) : w.SameFrames w' :=
  ⟨htone, hcounter, hidx, by rw [hpc], fun _ => by rw [hslots], by rw [htimer]⟩

/-- Nothing is seen that has to do with the frames. -/
theorem frameless_effectObs (e : Effect) :
    ∀ o ∈ effectObs e, o.filledSlot = none ∧ o.dueTime = none := by
  intro o ho
  cases e with
  | controlWrite msg =>
    obtain rfl := List.mem_singleton.mp ho
    exact ⟨rfl, rfl⟩
  | _ => exact absurd ho List.not_mem_nil

theorem frameless_singleton {o : SystemObs} (ho : o.filledSlot = none ∧ o.dueTime = none) :
    ∀ o' ∈ [o], o'.filledSlot = none ∧ o'.dueTime = none := by
  intro o' ho'
  rwa [List.mem_singleton.mp ho']

/-- An effect, of the call or of the thread, has nothing to do with the frames. -/
theorem sameFrames_perform (e : Effect) (clientTodo threadTodo : List Effect) :
    w.SameFrames { w.perform e with clientTodo, threadTodo } := by
  cases e <;> exact .of_eq rfl rfl rfl rfl rfl rfl

/-- The thread goes on, and there is no frame yet. -/
theorem sameFrames_pc {pc : ThreadPc} (hw : w.threadPc ≠ .fill) (hpc : pc ≠ .fill)
    (threadRunning : ThreadRunning) : w.SameFrames { w with threadPc := pc, threadRunning } :=
  ⟨rfl, rfl, rfl, iff_of_false hpc hw, fun _ => rfl, rfl⟩

theorem frameStep_read {op : SystemOp} {pc : ThreadPc} (hw : w.threadPc ≠ .fill)
    (hpc : pc ≠ .fill) : w.FrameStep op (privReadControlMessage { w with threadPc := pc }) := by
  unfold privReadControlMessage
  dsimp only
  cases w.threadPipe with
  | nil => exact .keeps ⟨rfl, rfl, rfl, iff_of_false hpc hw, fun _ => rfl, rfl⟩ (by simp)
  | cons msg rest =>
    exact .keeps ⟨rfl, rfl, rfl, iff_of_false hpc hw, fun _ => rfl, rfl⟩
      (frameless_singleton ⟨rfl, rfl⟩)

theorem frameStep_threadGo (env : ThreadEnv) : w.FrameStep (.threadStep env) (w.threadGo env) := by
  -- Outside of `frame` and `fill` the thread touches neither the slots nor the timer of the frames.
  have hgo (hw : w.threadPc ≠ .fill) {pc : ThreadPc} (hpc : pc ≠ .fill)
      (threadRunning : ThreadRunning) :
      w.FrameStep (.threadStep env) ({ w with threadPc := pc, threadRunning }, []) :=
    .keeps (sameFrames_pc hw hpc threadRunning) (by simp)
  unfold threadGo
  cases hpc : w.threadPc with
  | fill => exact .fill env hpc
  | stopped => exact .keeps (.refl w) (by simp)
  | frame =>
    have hne : w.threadPc ≠ .fill := by simp [hpc]
    dsimp only
    split
    · exact hgo hne (by simp) w.threadRunning
    · split
      · exact hgo hne (by simp) w.threadRunning
      · next helapsed => exact .due env hne (not_not.mp helapsed)
  | poll state =>
    have hne : w.threadPc ≠ .fill := by simp [hpc]
    dsimp only
    split
    · split
      · exact hgo hne (by simp) w.threadRunning
      · exact frameStep_read hne (by simp)
    · split
      · exact hgo hne (by simp) w.threadRunning
      · exact hgo hne (by simp) .exitReq
      · exact frameStep_read hne (by simp)
  | top =>
    have hne : w.threadPc ≠ .fill := by simp [hpc]
    dsimp only
    split
    · exact hgo hne (by simp) w.threadRunning
    · split
      · refine .keeps ⟨rfl, rfl, rfl, iff_of_false (by simp) hne, fun _ => rfl, ?_⟩ (by simp)
        rw [DummyPollTimer.prePoll_snd]
      · exact hgo hne (by simp) w.threadRunning
  | start =>
    have hne : w.threadPc ≠ .fill := by simp [hpc]
    refine hgo hne ?_ w.threadRunning
    split <;> simp
  | started =>
    have hne : w.threadPc ≠ .fill := by simp [hpc]
    exact hgo hne (by simp) .running
  | stopping =>
    have hne : w.threadPc ≠ .fill := by simp [hpc]
    exact hgo hne (by simp) .terminated

theorem frameless_start (x : ClientCall) :
    ∀ o ∈ (w.start x).2, o.filledSlot = none ∧ o.dueTime = none := by
  intro o ho
  obtain ⟨e, -, he⟩ := List.mem_filterMap.mp ho
  cases e with
  | threadWrite msg =>
    obtain rfl := Option.some.inj he
    exact ⟨rfl, rfl⟩
  | _ => cases he

/-- A call has nothing to do with the frames; what it leaves to be done has not, either. -/
theorem frameStep_start {op : SystemOp} {v : DummySystem} (x : ClientCall) (h : w.SameFrames v) :
    w.FrameStep op (v.start x) :=
  .keeps ⟨h.tone, h.dlFrameCounter, h.dlBufIdx, h.fill_iff, h.slots, h.pollTimer⟩
    (frameless_start x)

theorem toToneSlot_lock (i j : Fin salBufferSlots) (locked : Bool) :
    (Function.update w.dlBuffers i { w.dlBuffers i with locked } j).toToneSlot =
      (w.dlBuffers j).toToneSlot := by
  by_cases hj : j = i
  · rw [hj, Function.update_self]
  · rw [Function.update_of_ne hj]

theorem frameStep_run {i : SystemOp} (op : ClientOp) : w.FrameStep i (op.run w) := by
  have hul (ulBuffers : Fin salBufferSlots → DummyBuffer) (ulBufIdx : Fin salBufferSlots)
      {o : SystemObs} (ho : o.filledSlot = none ∧ o.dueTime = none) :
      w.FrameStep i ({ w with ulBuffers, ulBufIdx }, [o]) :=
    .keeps (.of_eq rfl rfl rfl rfl rfl rfl) (frameless_singleton ho)
  -- Acquiring and releasing change the lock of a slot, and the thread does not look at it.
  have hdl (j : Fin salBufferSlots) (locked : Bool) {o : SystemObs}
      (ho : o.filledSlot = none ∧ o.dueTime = none) :
      w.FrameStep i ({ w with
        dlBuffers := Function.update w.dlBuffers j { w.dlBuffers j with locked } }, [o]) :=
    .keeps ⟨rfl, rfl, rfl, Iff.rfl, fun j' => toToneSlot_lock j j' locked, rfl⟩
      (frameless_singleton ho)
  have hrefused (res : ℤ) : w.FrameStep i (w, [.released res]) :=
    .keeps (.refl w) (frameless_singleton ⟨rfl, rfl⟩)
  cases op with
  | checkPending flags =>
    refine .keeps (.of_eq rfl rfl rfl rfl rfl rfl) ?_
    intro o ho
    obtain ⟨msg, -, rfl⟩ := List.mem_map.mp ho
    exact ⟨rfl, rfl⟩
  | readEvent k =>
    refine .keeps (.of_eq rfl rfl rfl rfl rfl rfl) ?_
    exact List.forall_mem_cons.mpr ⟨⟨rfl, rfl⟩, frameless_start (w := w) _⟩
  | stateChangeCallStatus k status =>
    exact frameStep_start (v := { w with callServerStatus := status }) _
      (.of_eq rfl rfl rfl rfl rfl rfl)
  | close =>
    exact frameStep_start (v := { w with closing := true }) _ (.of_eq rfl rfl rfl rfl rfl rfl)
  | ulBufferAcquire => exact hul _ _ ⟨rfl, rfl⟩
  | ulBufferRelease j own =>
    dsimp only [ClientOp.run, ulBufferRelease]
    split
    · exact hrefused _
    · split
      · exact hrefused _
      · exact hul _ _ ⟨rfl, rfl⟩
  | dlBufferAcquire => exact hdl _ true ⟨rfl, rfl⟩
  | dlBufferRelease j own =>
    dsimp only [ClientOp.run, dlBufferRelease]
    split
    · exact hrefused _
    · split
      · exact hrefused _
      · exact hdl _ false ⟨rfl, rfl⟩
  | _ => exact frameStep_start _ (.refl w)

end DummySystem

/-- What a step does about the frames: nothing, or it begins one, or it fills the slot of the one
begun. -/
theorem dummySystem_frameStep (w : DummySystem) (op : SystemOp) :
    w.FrameStep op (dummySystem.next w op) := by
  cases op with
  | call op =>
    by_cases hidle : w.clientTodo = [] ∧ w.closing = false
    · rw [show dummySystem.next w (.call op) = op.run w from if_pos hidle]
      exact DummySystem.frameStep_run op
    · rw [show dummySystem.next w (.call op) = (w, []) from if_neg hidle]
      exact .keeps (.refl w) (by simp)
  | clientStep =>
    show w.FrameStep .clientStep w.clientStep
    unfold DummySystem.clientStep
    cases w.clientTodo with
    | nil => exact .keeps (.refl w) (by simp)
    | cons e todo =>
      refine .keeps ?_ (DummySystem.frameless_effectObs e)
      exact DummySystem.sameFrames_perform e todo (w.perform e).threadTodo
  | threadStep env =>
    show w.FrameStep (.threadStep env) (w.threadStep env)
    unfold DummySystem.threadStep
    cases w.threadTodo with
    | nil => exact DummySystem.frameStep_threadGo env
    | cons e todo =>
      refine .keeps ?_ (DummySystem.frameless_effectObs e)
      exact DummySystem.sameFrames_perform e (w.perform e).clientTodo todo

/-! ### Runs -/

/-- What is seen when the frames from `n` on are made, up to `n'`. -/
def MakesFrames (n : ℕ) (out : List SystemObs) (n' : ℕ) : Prop :=
  ∃ k, n' = n + k ∧ out.filterMap SystemObs.filledSlot = (List.range' n k).map frameSlot

/-- Every step makes the next frame, or leaves the frames alone. -/
theorem dummySystem_makesFrames (tone : DummyTone) :
    dummySystem.Simulated (Frames tone) (fun _ _ => True)
      (fun _ n out n' => MakesFrames n out n') := by
  intro w n op h _
  generalize hr : dummySystem.next w op = r
  have hstep := dummySystem_frameStep w op
  rw [hr] at hstep
  cases hstep with
  | keeps hw hout =>
    exact ⟨n, ⟨0, rfl, List.filterMap_eq_nil_iff.mpr fun o ho => (hout o ho).1⟩, h.same hw⟩
  | due env hpc => exact ⟨n, ⟨0, rfl, rfl⟩, h.due hpc⟩
  | fill env hpc =>
    obtain ⟨hidx, hframes⟩ := h.filled hpc env
    refine ⟨n + 1, ⟨1, rfl, ?_⟩, hframes⟩
    show [w.dlBufIdx] = [frameSlot n]
    rw [hidx]

/-- Nothing has been made when the backend is opened. -/
theorem frames_opened {w : DummySystem} (hw : dummySystem.init w) :
    Frames w.tone.toDummyTone w 0 := by
  obtain ⟨old, tone, env, htone, rfl⟩ := hw
  obtain ⟨⟨octets, -, hholds⟩, -⟩ := dummyToneInitialize_spec htone
  refine ⟨lt_of_le_of_lt tone.inTone.1 tone.inTone.2, ?_, rfl, rfl, fun _ => rfl, ?_⟩
  · rw [Nat.mul_zero]
    exact (DummyTone.after_zero hholds.tonePos).symm
  · intro m hm
    exact absurd hm (Nat.not_lt_zero m)

/-- How many frames have been made in a run: one for each slot that has been filled. -/
def framesMade (out : List SystemObs) : ℕ := (out.filterMap SystemObs.filledSlot).length

/-- The frames of a run come to the slots one after the other. -/
theorem frames_exec {w : DummySystem} (hw : dummySystem.init w) (ops : List SystemOp) :
    (dummySystem.trace w ops).filterMap SystemObs.filledSlot =
        (List.range (framesMade (dummySystem.trace w ops))).map frameSlot ∧
      Frames w.tone.toDummyTone (dummySystem.exec w ops)
        (framesMade (dummySystem.trace w ops)) := by
  have hstep (n : ℕ) (seen out : List SystemObs) (n' : ℕ)
      (hseen : seen.filterMap SystemObs.filledSlot = (List.range n).map frameSlot)
      (hout : MakesFrames n out n') :
      (seen ++ out).filterMap SystemObs.filledSlot = (List.range n').map frameSlot := by
    obtain ⟨k, rfl, hout⟩ := hout
    have hrange : List.range n ++ List.range' n k = List.range (n + k) := by
      rw [List.range_eq_range', List.range_eq_range', ← List.range'_append_1, Nat.zero_add]
    rw [List.filterMap_append, hseen, hout, ← List.map_append, hrange]
  obtain ⟨n, hframes, hslots⟩ := (dummySystem_makesFrames w.tone.toDummyTone).run
    (P := fun _ _ => True) (l := []) (fun _ _ _ _ _ => trivial)
    (fun _ n seen out n' hseen _ hout => hstep n seen out n' hseen hout) (frames_opened hw) rfl
    (dummySystem.along_true w ops)
  rw [List.nil_append] at hslots
  have hn : framesMade (dummySystem.trace w ops) = n := by
    rw [framesMade, hslots, List.length_map, List.length_range]
  rw [hn]
  exact ⟨hslots, hframes⟩

/-! ### The slots in a run -/

/-- How many frames have been begun when `n` have been made: the thread is at work on one from
when it moves `dl_buf_idx` until the slot is full. -/
def framesBegun (w : DummySystem) (n : ℕ) : ℕ := n + if w.threadPc = .fill then 1 else 0

/-- **The last five frames are in the slots**, less the one that is being overwritten: whatever the
application does, the frames of a run come to the slots in turn, each with the next number and the
next samples, and stay there until the fifth frame after them is begun. -/
theorem dummySystem_dlSlots {w : DummySystem} (hw : dummySystem.init w) (ops : List SystemOp) :
    let out := dummySystem.trace w ops
    let w' := dummySystem.exec w ops
    let n := framesMade out
    out.filterMap SystemObs.filledSlot = (List.range n).map frameSlot ∧
      ∀ m, m < n → framesBegun w' n ≤ m + 5 →
        HoldsFrame w.tone.toDummyTone m (w'.dlBuffers (frameSlot m)).toToneSlot := by
  intro out w' n
  obtain ⟨hslots, hframes⟩ := frames_exec hw ops
  refine ⟨hslots, ?_⟩
  intro m hm hbegun
  exact hframes.slots m hm ((Nat.le_add_right _ _).trans hbegun)

/-- The clock shows `now`, and nothing has happened to `poll`. -/
def ThreadEnv.showing (now : Timespec) : ThreadEnv := ⟨none, now, now, now⟩

/-- The thread goes through its loop at the time `now`. -/
def loopRun (now : Timespec) : List SystemOp := List.replicate 5 (.threadStep (.showing now))

/-- A call becomes active, and the first frame is made. -/
def firstFrameRun : List SystemOp :=
  startRun ++ .call (.stateChangeCallStatus .accepting true) :: setUpRun ++ loopRun ⟨1, 0⟩

theorem dummySystem_dlSlots_first :
    let out := dummySystem.trace .fresh firstFrameRun
    let w' := dummySystem.exec .fresh firstFrameRun
    let n := framesMade out
    out.filterMap SystemObs.filledSlot = (List.range n).map frameSlot ∧
      ∀ m, m < n → framesBegun w' n ≤ m + 5 →
        HoldsFrame DummySystem.fresh.tone.toDummyTone m (w'.dlBuffers (frameSlot m)).toToneSlot :=
  dummySystem_dlSlots DummySystem.init_fresh firstFrameRun

/-- The frame is in the slot until five more have been made. -/
theorem Frames.holds_iff {tone : DummyTone} {w : DummySystem} {n m : ℕ} (h : Frames tone w n)
    (hm : m < n) (hn : n ≤ m + 2 ^ 16) :
    HoldsFrame tone m (w.dlBuffers (frameSlot m)).toToneSlot ↔ n ≤ m + 5 := by
  constructor
  · intro hholds
    by_contra hlate
    -- the last frame to come to the slot
    obtain ⟨k, hk⟩ : ∃ k, m + 5 * k < n ∧ n ≤ m + 5 * k + 5 :=
      ⟨(n - m - 1) / 5, by omega, by omega⟩
    have hslot : frameSlot (m + 5 * k) = frameSlot m := by
      apply Fin.ext
      rw [val_frameSlot, val_frameSlot]
      omega
    have hother := h.slots (m + 5 * k) hk.1 hk.2
    rw [hslot] at hother
    have hnumber := hholds.emod_eq hother
    omega
  · exact h.slots m hm

/-- **What the application acquires** is the slot of the last frame that has been begun.  When the
frame has been made it is in the slot until the fifth frame after it is begun, whether the
application has given the slot back or not, and when that one has been made it is there no more,
before the numbers of the frames come round. -/
theorem dummySystem_dlAcquired {w : DummySystem} (hw : dummySystem.init w)
    (ops later : List SystemOp) {m : ℕ}
    (hm : framesBegun (dummySystem.exec w ops) (framesMade (dummySystem.trace w ops)) = m + 1)
    (hmade : m < framesMade (dummySystem.trace w (ops ++ later))) :
    let acquired := dummySystem.exec w ops
    let w' := dummySystem.exec w (ops ++ later)
    let n := framesMade (dummySystem.trace w (ops ++ later))
    let slot := (w'.dlBuffers acquired.dlBufIdx).toToneSlot
    (framesBegun w' n ≤ m + 5 → HoldsFrame w.tone.toDummyTone m slot) ∧
      (n ≤ m + 2 ^ 16 → HoldsFrame w.tone.toDummyTone m slot → n ≤ m + 5) := by
  intro acquired w' n slot
  obtain ⟨-, hframes⟩ := frames_exec hw ops
  obtain ⟨-, hlater⟩ := frames_exec hw (ops ++ later)
  -- The slot handed out is the one `dl_buf_idx` points at, of the frame begun last.
  have hslot : acquired.dlBufIdx = frameSlot m := by
    apply Fin.ext
    rw [hframes.dlBufIdx, val_frameSlot, ← hm, framesBegun]
  refine ⟨?_, ?_⟩
  · intro hbegun
    show HoldsFrame _ m (w'.dlBuffers acquired.dlBufIdx).toToneSlot
    rw [hslot]
    exact hlater.slots m hmade ((Nat.le_add_right _ _).trans hbegun)
  · intro hn hholds
    have hholds' : HoldsFrame _ m (w'.dlBuffers acquired.dlBufIdx).toToneSlot := hholds
    rw [hslot] at hholds'
    exact (hlater.holds_iff hmade hn).mp hholds'

/-- The first frame has been begun: `dl_buf_idx` is moved, and the slot is not filled yet. -/
def firstBegunRun : List SystemOp := firstFrameRun.take (firstFrameRun.length - 2)

/-- Its slot is acquired while it is made, and then the second one is made. -/
def acquiredEarlyRun : List SystemOp :=
  .call .dlBufferAcquire :: .threadStep (.showing ⟨1, 0⟩) :: .threadStep (.showing ⟨1, 0⟩) ::
    loopRun ⟨1, 20000000⟩

theorem dummySystem_dlAcquired_early :
    let w' := dummySystem.exec .fresh (firstBegunRun ++ acquiredEarlyRun)
    let n := framesMade (dummySystem.trace .fresh (firstBegunRun ++ acquiredEarlyRun))
    let slot := (w'.dlBuffers (dummySystem.exec .fresh firstBegunRun).dlBufIdx).toToneSlot
    (framesBegun w' n ≤ 0 + 5 → HoldsFrame DummySystem.fresh.tone.toDummyTone 0 slot) ∧
      (n ≤ 0 + 2 ^ 16 → HoldsFrame DummySystem.fresh.tone.toDummyTone 0 slot → n ≤ 0 + 5) :=
  dummySystem_dlAcquired DummySystem.init_fresh firstBegunRun acquiredEarlyRun
    (by decide) (by decide)

/-! ### The rate of the frames -/

/-- What the clock shows has less than a second in the nanoseconds field. -/
def SystemOp.ReadsClock : SystemOp → Prop
  | .threadStep env => env.isElapsedNow.Normalised ∧ env.elapsedNow.Normalised
  | _ => True

/-- A difference that is not negative is at most one nanosecond short, and never too long. -/
theorem roughDiffNs_le {a b : Timespec} (ha : a.Normalised) (hb : b.Normalised)
    (h : 0 ≤ roughDiffNs a b) : roughDiffNs a b ≤ a.ns - b.ns := by
  have ha₀ := ha.nonneg
  have ha₁ := ha.lt
  have hb₀ := hb.nonneg
  have hb₁ := hb.lt
  simp only [Timespec.ns]
  unfold roughDiffNs at h ⊢
  split_ifs at h ⊢ <;> omega

/-- The timer when `n` frames have been made: it starts with the first of them. -/
structure Timed (w : DummySystem) (n : ℕ) : Prop where
  baseperiodNs : w.pollTimer.baseperiodNs = 20000000
  hasElapsed : n = 0 → w.pollTimer.hasElapsed = 0
  running : 0 < n → w.pollTimer.Running

/-- The timer when `n` frames have been due since it showed `start`, but for the one that is being
made. -/
structure Paced (start : ℤ) (w : DummySystem) (n : ℕ) : Prop where
  baseperiodNs : w.pollTimer.baseperiodNs = 20000000
  running : w.pollTimer.Running
  lastElapsed : w.pollTimer.lastElapsed.ns + 20000000 * (if w.threadPc = .fill then 1 else 0) =
    start + 20000000 * n

/-- What is seen when the frames from `n` on are due: frame `n` and those after it are not made
ahead of their times, which are 20 ms apart from `start` on, by more than 5 ms. -/
def PacesFrames (start : ℤ) (n : ℕ) (out : List SystemObs) (n' : ℕ) : Prop :=
  n' = n + (out.filterMap SystemObs.dueTime).length ∧
    ∀ j now, (out.filterMap SystemObs.dueTime)[j]? = some now →
      start + 20000000 * (n + j + 1 : ℕ) ≤ now.ns + 5000000

theorem PacesFrames.of_none {start : ℤ} {n : ℕ} {out : List SystemObs}
    (h : out.filterMap SystemObs.dueTime = []) : PacesFrames start n out n := by
  refine ⟨?_, ?_⟩
  · rw [h, List.length_nil, Nat.add_zero]
  · intro j now hnow
    rw [h] at hnow
    cases hnow

theorem PacesFrames.append {start : ℤ} {n n' n'' : ℕ} {out out' : List SystemObs}
    (h : PacesFrames start n out n') (h' : PacesFrames start n' out' n'') :
    PacesFrames start n (out ++ out') n'' := by
  obtain ⟨hlen, hdue⟩ := h
  obtain ⟨hlen', hdue'⟩ := h'
  refine ⟨?_, ?_⟩
  · rw [List.filterMap_append, List.length_append, hlen', hlen, Nat.add_assoc]
  · intro j now hnow
    rw [List.filterMap_append] at hnow
    rcases Nat.lt_or_ge j (out.filterMap SystemObs.dueTime).length with hj | hj
    · rw [List.getElem?_append_left hj] at hnow
      exact hdue j now hnow
    · rw [List.getElem?_append_right hj] at hnow
      have hsum : n' + (j - (out.filterMap SystemObs.dueTime).length) + 1 = n + j + 1 := by omega
      rw [← hsum]
      exact hdue' _ now hnow

namespace DummyPollTimer

variable {timer : DummyPollTimer}

theorem Running.withPrepoll (h : timer.Running) (prepoll : Timespec) :
    ({ timer with prepoll } : DummyPollTimer).Running := by
  obtain ⟨helapsed, hnonneg, hlt, hnormalised⟩ := h
  exact ⟨helapsed, hnonneg, hlt, hnormalised⟩

/-- The timer runs when the first frame has been made. -/
theorem running_first (hperiod : timer.baseperiodNs = 20000000) (helapsed : timer.hasElapsed = 0)
    {now : Timespec} (hnow : now.Normalised) : (timer.elapsedFixedPeriod now).Running := by
  unfold elapsedFixedPeriod
  rw [if_pos helapsed]
  refine ⟨rfl, ?_, ?_, hnow⟩
  · show 0 ≤ timer.baseperiodNs
    omega
  · show timer.baseperiodNs < 1000000000
    omega

theorem baseperiodNs_elapsedFixedPeriod (now : Timespec) :
    (timer.elapsedFixedPeriod now).baseperiodNs = timer.baseperiodNs := by
  unfold elapsedFixedPeriod
  split
  · rfl
  · dsimp only
    split <;> rfl

end DummyPollTimer

theorem dummySystem_timed :
    dummySystem.Simulated Timed (fun _ op => op.ReadsClock)
      (fun _ n out n' => n' = n + framesMade out) := by
  intro w n op h hclock
  generalize hr : dummySystem.next w op = r
  have hstep := dummySystem_frameStep w op
  rw [hr] at hstep
  cases hstep with
  | keeps hw hout =>
    have hnone : framesMade r.2 = 0 := by
      rw [framesMade, List.filterMap_eq_nil_iff.mpr fun o ho => (hout o ho).1, List.length_nil]
    refine ⟨n, (congrArg (n + ·) hnone).symm, ?_, ?_, ?_⟩
    · rw [hw.pollTimer]
      exact h.baseperiodNs
    · rw [hw.pollTimer]
      exact h.hasElapsed
    · intro hn
      rw [hw.pollTimer]
      exact (h.running hn).withPrepoll _
  -- The frame is begun here, and is counted when its slot has been filled.
  | due env hpc => exact ⟨n, rfl, h.baseperiodNs, h.hasElapsed, h.running⟩
  | fill env hpc =>
    refine ⟨n + 1, rfl, ?_, fun hn => absurd hn (Nat.succ_ne_zero n), fun _ => ?_⟩
    · exact (DummyPollTimer.baseperiodNs_elapsedFixedPeriod _).trans h.baseperiodNs
    · rcases Nat.eq_zero_or_pos n with hn | hn
      · exact DummyPollTimer.running_first h.baseperiodNs (h.hasElapsed hn) hclock.2
      · exact ((h.running hn).elapsedFixedPeriod _).1

theorem dummySystem_paced (start : ℤ) :
    dummySystem.Simulated (Paced start) (fun _ op => op.ReadsClock)
      (fun _ n out n' => PacesFrames start n out n') := by
  intro w n op h hclock
  generalize hr : dummySystem.next w op = r
  have hstep := dummySystem_frameStep w op
  rw [hr] at hstep
  cases hstep with
  | keeps hw hout =>
    have hnone : r.2.filterMap SystemObs.dueTime = [] :=
      List.filterMap_eq_nil_iff.mpr fun o ho => (hout o ho).2
    refine ⟨n, .of_none hnone, ?_, ?_, ?_⟩
    · rw [hw.pollTimer]
      exact h.baseperiodNs
    · rw [hw.pollTimer]
      exact h.running.withPrepoll _
    · rw [show r.1.pollTimer.lastElapsed = w.pollTimer.lastElapsed by rw [hw.pollTimer],
        if_congr hw.fill_iff rfl rfl]
      exact h.lastElapsed
  | due env hpc helapsed =>
    have hlast := h.lastElapsed
    rw [if_neg hpc] at hlast
    have hdue : roughDiffNs env.isElapsedNow w.pollTimer.lastElapsed + 5000000 ≥ 20000000 := by
      rw [← h.baseperiodNs]
      exact of_decide_eq_true helapsed
    obtain ⟨-, -, -, hnormalised⟩ := h.running
    -- The difference is exact or too small, so the time is not before the period is over, less the
    -- margin.
    have hle := roughDiffNs_le hclock.1 hnormalised (by omega)
    refine ⟨n + 1, ⟨rfl, ?_⟩, h.baseperiodNs, h.running, ?_⟩
    · intro j now hnow
      cases j with
      | zero =>
        obtain rfl := Option.some.inj hnow
        push_cast
        omega
      | succ j => cases hnow
    · rw [if_pos rfl]
      push_cast
      show w.pollTimer.lastElapsed.ns + _ = _
      omega
  -- The timer goes on by the period itself and not by the clock, so that delays do not add up.
  | fill env hpc =>
    obtain ⟨hrunning, hperiod, hns⟩ := h.running.elapsedFixedPeriod env.elapsedNow
    have hlast := h.lastElapsed
    rw [if_pos hpc] at hlast
    refine ⟨n, .of_none rfl, hperiod.trans h.baseperiodNs, hrunning, ?_⟩
    have htop : (w.fillSlot env).threadPc ≠ .fill := show ThreadPc.top ≠ .fill by simp
    have htimer : (w.fillSlot env).pollTimer.lastElapsed.ns =
        w.pollTimer.lastElapsed.ns + w.pollTimer.baseperiodNs := hns
    rw [if_neg htop, htimer, h.baseperiodNs, mul_zero, add_zero, ← hlast, mul_one]

/-- **The frames are not ahead of their schedule**: once the first one has been made, each of them
is due one period of the timer after the one before it was due, and is never made more than the
margin before that, whatever the application does and however the thread is scheduled.  They may
well be late: a thread that wakes up after several periods makes the frames it has missed without
waiting in between. -/
theorem dummySystem_framesPaced {w : DummySystem} (hw : dummySystem.init w)
    {ops later : List SystemOp} (hclock : ∀ op ∈ ops ++ later, op.ReadsClock)
    (hn : 0 < framesMade (dummySystem.trace w ops)) :
    let w' := dummySystem.exec w ops
    let filling := if w'.threadPc = .fill then 1 else 0
    ∀ j now, ((dummySystem.trace w' later).filterMap SystemObs.dueTime)[j]? = some now →
      w'.pollTimer.lastElapsed.ns + 20000000 * (filling + j + 1 : ℕ) ≤ now.ns + 5000000 := by
  intro w' filling
  have hclocks (l : List SystemOp) (hl : ∀ op ∈ l, op ∈ ops ++ later) (w : DummySystem) :
      dummySystem.Along (fun _ op => op.ReadsClock) w l :=
    (dummySystem.along_forall SystemOp.ReadsClock w l).mpr fun op hop => hclock op (hl op hop)
  -- Up to the first frame only the timer's period is known; from it on the timer has run.
  have hopened : Timed w 0 := by
    obtain ⟨old, tone, env, -, rfl⟩ := hw
    exact ⟨rfl, fun _ => rfl, fun h => absurd h (Nat.lt_irrefl 0)⟩
  obtain ⟨n, htimed, hmade⟩ := dummySystem_timed.run (P := fun _ _ => True) (l := [])
    (I := fun n seen => n = framesMade seen) (fun _ _ _ _ _ => trivial)
    (fun _ n seen out n' hseen _ hout => by
      rw [hout, hseen, framesMade, framesMade, framesMade, List.filterMap_append,
        List.length_append])
    hopened rfl (hclocks ops (fun _ => List.mem_append_left _) w)
  rw [List.nil_append] at hmade
  have hstart : Paced w'.pollTimer.lastElapsed.ns w' filling := by
    refine ⟨htimed.baseperiodNs, htimed.running (hmade ▸ hn), ?_⟩
    show _ = _ + 20000000 * ((if w'.threadPc = .fill then 1 else 0 : ℕ) : ℤ)
    split <;> rfl
  obtain ⟨-, -, -, hpaced⟩ := (dummySystem_paced w'.pollTimer.lastElapsed.ns).run
    (P := fun _ _ => True) (l := [])
    (I := fun n seen => PacesFrames w'.pollTimer.lastElapsed.ns filling seen n)
    (fun _ _ _ _ _ => trivial) (fun _ _ _ _ _ hseen _ hout => hseen.append hout) hstart
    (.of_none rfl) (hclocks later (fun _ => List.mem_append_right _) w')
  rwa [List.nil_append] at hpaced

/-- The second frame is due 15 milliseconds after the first one. -/
theorem dummySystem_framesPaced_first :
    (dummySystem.exec .fresh firstFrameRun).pollTimer.lastElapsed.ns + 20000000 * (0 + 0 + 1 : ℕ) ≤
      (⟨1, 15000000⟩ : Timespec).ns + 5000000 := by
  have hclock : ∀ op ∈ firstFrameRun ++ loopRun ⟨1, 15000000⟩, op.ReadsClock := by
    have hcalm : SystemOp.ReadsClock (.threadStep .calm) :=
      ⟨⟨by decide, by decide⟩, ⟨by decide, by decide⟩⟩
    have hfirst : SystemOp.ReadsClock (.threadStep (.showing ⟨1, 0⟩)) :=
      ⟨⟨by decide, by decide⟩, ⟨by decide, by decide⟩⟩
    have hsecond : SystemOp.ReadsClock (.threadStep (.showing ⟨1, 15000000⟩)) :=
      ⟨⟨by decide, by decide⟩, ⟨by decide, by decide⟩⟩
    simp [firstFrameRun, startRun, setUpRun, loopRun, hcalm, hfirst, hsecond]
    simp [SystemOp.ReadsClock]
  exact dummySystem_framesPaced DummySystem.init_fresh hclock (by decide) 0 ⟨1, 15000000⟩
    (by decide)

end CmtSpeech
