import CmtSpeech.BufConfig
import CmtSpeech.Ownership

/-!
# The counts of the uplink

`ul_errors` and the frame counter of `cmtspeech_ul_buffer_release` depend on what a run has done
at the boundaries of the library, and on nothing else.

* `Uplink` — the two counts.
* `Uplink.step` — what one observation does to them.

## Main results

* `uplink_next` — a step moves the counts as its observations say.
* `out_of_sends` — all that a release does that sends a frame.
-/

namespace CmtSpeech

namespace WriteRes

/-- The kernel took the whole message, so that the modem will get the frame. -/
def Complete (w : WriteRes) : Prop := w.res = ctrlLen

/-- The kernel was busy.  The frame is lost, which may happen now and then. -/
def Busy (w : WriteRes) : Prop := w.res < 0 ∧ w.errno = ebusy

/-- Any other failure: the kernel took a part of the message, or returned an error that is not
`EBUSY`. -/
def Broken (w : WriteRes) : Prop := ¬ w.Complete ∧ ¬ w.Busy

instance (w : WriteRes) : Decidable w.Complete := inferInstanceAs (Decidable (_ = _))
instance (w : WriteRes) : Decidable w.Busy := inferInstanceAs (Decidable (_ ∧ _))
instance (w : WriteRes) : Decidable w.Broken := inferInstanceAs (Decidable (_ ∧ _))

theorem Busy.not_complete {w : WriteRes} (h : w.Busy) : ¬ w.Complete := by
  intro hc
  have hlt := h.1
  rw [Complete, ctrlLen] at hc
  omega

end WriteRes

/-- The counts of the uplink: the errors of the sends, and the counter that the frames are
numbered by. -/
@[ext] structure Uplink where
  errors : ℕ
  counter : BitVec 16

namespace Uplink

/-- A frame was handed to the kernel: taken, refused because it was busy, or failed. -/
def sent (u : Uplink) (w : WriteRes) : Uplink :=
  if w.Complete then { u with counter := u.counter + 4 }
  else if w.Busy then { u with errors := u.errors + 1 }
  else { u with errors := maxUlErrorsPause }

/-- An announced frame and a new layout set the errors to 0, and frames that are sent count. -/
def step (u : Uplink) : Obs → Uplink
  | .recv cmd => if RxDataWord cmd then { u with errors := 0 } else u
  | .configBufs _ _ => { u with errors := 0 }
  | .writeData _ w => u.sent w
  | _ => u

end Uplink

/-- The counts of an instance: its errors, and the counter of its process. -/
def Machine.uplink (m : Machine) : Uplink := ⟨m.buf.ulErrors, m.ulCounter⟩

/-- `m'` comes after `m`, and its counts are as the observations in between say.  The counts of a
run are then those of its trace. -/
def Tallies (m m' : Machine) : Prop :=
  ∃ o, m'.out = m.out ++ o ∧ m'.uplink = o.foldl Uplink.step m.uplink

namespace Tallies

variable {m m' m'' : Machine}

theorem of_eq (ho : m'.out = m.out) (hu : m'.uplink = m.uplink) : Tallies m m' :=
  ⟨[], by rw [ho, List.append_nil], hu⟩

theorem of_obs {o : Obs} (ho : m'.out = m.out ++ [o]) (hu : m'.uplink = m.uplink.step o) :
    Tallies m m' := ⟨[o], ho, hu⟩

theorem trans (h : Tallies m m') (h' : Tallies m' m'') : Tallies m m'' := by
  obtain ⟨o, ho, hu⟩ := h
  obtain ⟨o', ho', hu'⟩ := h'
  refine ⟨o ++ o', by rw [ho', ho, List.append_assoc], ?_⟩
  rw [hu', hu, List.foldl_append]

end Tallies

/-- A new layout forgets the errors, and the counter of frames goes on. -/
theorem tallies_privSetupDriverBufconfig (k : Kernel) (m : Machine) :
    Tallies m (privSetupDriverBufconfig k m).2 := by
  have hcounter : (privSetupDriverBufconfig k m).2.ulCounter = m.ulCounter := by
    simp only [privSetupDriverBufconfig, privSetupDriverBufconfigV2api]
    repeat' split
    all_goals rfl
  have herrors : (privSetupDriverBufconfig k m).2.buf.ulErrors = 0 := by
    rw [(configures_privSetupDriverBufconfig k m).buf, BufState.configured]
    split_ifs <;> rfl
  refine .of_obs (o := .configBufs m.buf.slotSize (k.configBufs (m.tick + 1))) ?_ ?_
  · have hout := (privSetupDriverBufconfigV2api_exact k (m.modBuf fun b =>
      if b.slotSize = 0 then privResetBufStateToDisconnected
      else { b with ulErrors := 0, rxPtrHw := -1, rxPtrAppl := -1, ulSlotApp := some 0 })).2.1
    have hsize : (if m.buf.slotSize = 0 then privResetBufStateToDisconnected else
        { m.buf with ulErrors := 0, rxPtrHw := -1, rxPtrAppl := -1, ulSlotApp := some 0 }).slotSize
          = m.buf.slotSize := by
      split
      · next hz => exact hz.symm
      · rfl
    rw [Machine.modBuf_buf, hsize] at hout
    exact hout
  · exact Uplink.ext herrors hcounter

theorem apart_tallies : Apart Tallies where
  refl _ := .of_eq rfl rfl
  trans h h' := h.trans h'
  modBc _ _ := .of_eq rfl rfl
  wake _ _ := .of_eq rfl rfl
  setWakeline _ _ _ := .of_obs rfl rfl
  write _ _ _ _ := .of_obs rfl rfl
  posted _ _ _ := .of_obs rfl rfl
  timing := trivial
  ssi _ _ := trivial
  callStatus _ _ := .of_obs rfl rfl
  modBuf m _ h := .of_eq rfl (congrArg (Uplink.mk · m.ulCounter) h)
  octets _ _ _ := .of_eq rfl rfl
  setup k m := tallies_privSetupDriverBufconfig k m

/-- A frame that is announced forgets the errors: the modem is alive, and the pause is over. -/
theorem handleInboundRxDataReceived_exact (cmd : Cmd) (m : Machine) :
    (handleInboundRxDataReceived cmd m).2.out = m.out ∧
      (handleInboundRxDataReceived cmd m).2.uplink = ⟨0, m.ulCounter⟩ := by
  have hmark (c : Machine → Bool) (slot : Fin dlSlots) (r : BitVec 4 × Machine) :
      (markXrun c slot r).2.out = r.2.out ∧ (markXrun c slot r).2.ulCounter = r.2.ulCounter := by
    unfold markXrun
    split
    · exact ⟨rfl, rfl⟩
    · exact ⟨rfl, rfl⟩
  unfold handleInboundRxDataReceived
  dsimp only
  refine ⟨?_, Uplink.ext rfl ?_⟩
  · rw [Machine.modBuf_out, (hmark _ _ _).1, (hmark _ _ _).1, (hmark _ _ _).1]
    rfl
  · show Machine.ulCounter (Prod.snd (markXrun _ _ _)) = _
    rw [(hmark _ _ _).2, (hmark _ _ _).2, (hmark _ _ _).2]
    rfl

section
variable (k : Kernel) (m : Machine)

/-- What a release does that sends the frame of descriptor `i`. -/
theorem ulBufferSend_exact (i : Fin ulSlots) :
    (ulBufferSend k i m).2.out =
        m.out ++ [.writeData (txDataReady (m.buf.ulbufdesc i).bd.index) (k.write m.tick)] ∧
      (ulBufferSend k i m).2.uplink = m.uplink.sent (k.write m.tick) := by
  unfold ulBufferSend
  dsimp only
  generalize hm : m.modD _ = m₁
  have ht : m₁.tick = m.tick := by rw [← hm, Machine.modD_tick]
  have hu : m₁.uplink = m.uplink := by
    rw [← hm]
    rfl
  have hw (msg : Cmd) : (privWriteData k msg m₁).2.out =
      m.out ++ [.writeData msg (k.write m.tick)] := by
    rw [privWriteData, Machine.syscall_out, ht, ← hm]
    rfl
  -- One call of the kernel is made, and the counters go by its result.
  have hres (msg : Cmd) : (privWriteData k msg m₁).1 = k.write m.tick := by
    rw [privWriteData, ht]
  rw [hres, ← hu, Uplink.sent]
  by_cases hc : (k.write m.tick).Complete
  · rw [if_pos (show (k.write m.tick).res = ctrlLen from hc), if_pos hc]
    exact ⟨hw _, rfl⟩
  · rw [if_neg (show ¬ (k.write m.tick).res = ctrlLen from hc), if_neg hc]
    by_cases hb : (k.write m.tick).Busy
    · rw [if_pos (show (k.write m.tick).res < 0 ∧ (k.write m.tick).errno = ebusy from hb),
        if_pos hb]
      exact ⟨hw _, rfl⟩
    · rw [if_neg (show ¬ ((k.write m.tick).res < 0 ∧ (k.write m.tick).errno = ebusy) from hb),
        if_neg hb]
      exact ⟨hw _, rfl⟩

/-- An operation leaves the counters where the fold over its observations puts them. -/
theorem tallies_run (op : Op) : Tallies m (op.run k m) := by
  by_cases hx : ∃ cmd, op = .recv cmd ∧ RxDataWord cmd
  · obtain ⟨cmd, rfl, hd, ht⟩ := hx
    obtain ⟨ho, hu⟩ := handleInboundRxDataReceived_exact cmd (m.emit (.recv cmd))
    have hrun : Op.run k m (.recv cmd) =
        (handleInboundRxDataReceived cmd (m.emit (.recv cmd))).2 := by
      rw [Op.run, CmtSpeech.checkPending, if_neg (by decide), handleInboundControlMessage,
        if_neg (by rw [hd]; decide), if_pos hd]
      exact congrArg (fun r : ℤ × BitVec 4 × Machine => r.2.2) (if_pos ht)
    refine .of_obs (o := .recv cmd) (hrun ▸ ho) ?_
    rw [hrun, hu, Uplink.step, if_pos ⟨hd, ht⟩]
    rfl
  -- No other call touches the counters but the sending of a frame.
  · have hx' (cmd : Cmd) (h : op = .recv cmd) : ¬ RxDataWord cmd := fun hw => hx ⟨cmd, h, hw⟩
    refine apart_tallies.run k m op ?_ (fun cmd h hw => absurd hw (hx' cmd h)) ?_ ?_ ?_ ?_
    · intro cmd h
      refine .of_obs rfl ?_
      rw [Uplink.step, if_neg (hx' cmd h)]
      rfl
    · intro cmd h m e
      exact .of_obs rfl rfl
    · intro h m
      rw [privDequeueControlEvent]
      split
      · exact .of_eq rfl rfl
      · exact .of_eq rfl rfl
    · intro i h m
      obtain ⟨ho, hu⟩ := ulBufferSend_exact k m i
      exact .of_obs ho hu
    · intro area h
      exact .of_eq rfl rfl

end

/-- **The counts of the uplink** are moved by what a step does at the boundaries. -/
theorem uplink_next (m : Machine) (i : Step) :
    (nokiamodem.next m i).1.uplink = (nokiamodem.next m i).2.foldl Uplink.step m.uplink := by
  obtain ⟨o, ho, hu⟩ := tallies_run i.1 m.begin i.2
  have hout : (nokiamodem.next m i).2 = o := ho
  rw [hout]
  exact hu

/-- A release that sends a frame, and then takes the buffer back. -/
theorem run_of_sends {k : Kernel} {m : Machine} {i j : Fin ulSlots}
    (h : Sends m (.ulBufferRelease (some i)) j) :
    j = (m.buf.ulbufdesc i).bd.index ∧
      (Op.ulBufferRelease (some i)).run k m.begin =
        (ulBufferSend k i m.begin).2.modBuf fun b => b.mapFlags (.ul j) (· &&& ~~~bufLocked) := by
  cases h with
  | release hp he hs =>
    have hsubmit : ulBufferSubmit k i m.begin = ulBufferSend k i m.begin :=
      (if_neg (not_le.mpr he)).trans (if_pos hs)
    refine ⟨rfl, ?_⟩
    rw [Op.run, ulBufferRelease]
    dsimp only
    rw [if_neg (show ¬ m.begin.buf.speechConfigRespPend = true from
      fun h => Bool.false_ne_true (hp.symm.trans h)), hsubmit]
    rfl

/-- All that a release does that sends a frame is the one write of the frame. -/
theorem out_of_sends {k : Kernel} {m : Machine} {op : Op} {j : Fin ulSlots} (h : Sends m op j) :
    (nokiamodem.next m (k, op)).2 = [.writeData (txDataReady j) (k.write 0)] := by
  obtain ⟨i, rfl⟩ : ∃ i, op = .ulBufferRelease (some i) := by
    cases h
    exact ⟨_, rfl⟩
  obtain ⟨rfl, hrun⟩ := run_of_sends (k := k) h
  have hout : (nokiamodem.next m (k, .ulBufferRelease (some i))).2 =
      ((Op.ulBufferRelease (some i)).run k m.begin).out := rfl
  rw [hout, hrun]
  exact (ulBufferSend_exact k m.begin i).1

end CmtSpeech
