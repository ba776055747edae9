import CmtSpeech.Agreement
import CmtSpeech.BufConfig

/-!
# Where the slots are

The driver announces the offsets of the slots in the mapped area.  The descriptors are made
from this table when a layout is configured, and from the private copy in `priv->d` when an
`SSI_CONFIG_RESP` changes the sample layout; `cmtspeech_dl_buffer_acquire` and the test ramp
go by the copy too.  Nothing fills the copy.

* `SameSlots` — two areas with the same table.
* `ForgetsLayout` — the operations that unset the sample layout.
* `Settled` — the last configuration succeeded, and no other is on its way.
* `SlotsAgree` — descriptors and copies go by the table of the driver.
* `MisplacesSlots` — the steps after which they do not.

## Main result

* `slotsAgree_iff`
-/

namespace CmtSpeech

open Protocol

/-! ### The tables -/

/-- The offsets of the slots are the same in both areas, whatever else the driver has written
there. -/
structure SameSlots (a a' : MmapArea) : Prop where
  rx : a'.rxOffsets = a.rxOffsets
  tx : a'.txOffsets = a.txOffsets

namespace SameSlots

theorem refl (a : MmapArea) : SameSlots a a := ⟨rfl, rfl⟩

theorem trans {a a' a'' : MmapArea} (h : SameSlots a a') (h' : SameSlots a' a'') :
    SameSlots a a'' := ⟨h'.rx.trans h.rx, h'.tx.trans h.tx⟩

theorem of_octets {d d' : DriverState} (h : OnlyOctets d d') : SameSlots d.buf d'.buf := by
  obtain ⟨bytes, swap, rfl⟩ := h
  exact ⟨rfl, rfl⟩

end SameSlots

/-- The protocol layer leaves the table alone, as it does not configure the driver. -/
theorem talks_sameSlots : Talks (fun _ => True) fun m m' => SameSlots m.d.buf m'.d.buf where
  refl m := .refl m.d.buf
  trans := .trans
  modBc _ _ := .refl _
  wake _ _ := .refl _
  setWakeline _ _ _ := .refl _
  write _ _ _ _ := .refl _
  posted _ _ _ := .refl _
  timing := trivial
  ssi _ _ := trivial

/-- Between `m` and `m'` the driver has announced no other table. -/
def KeepsTable (m m' : Machine) : Prop :=
  ∃ rest, m'.out = m.out ++ rest ∧
    ((∀ n r, .configBufs n r ∉ rest) → SameSlots m.d.buf m'.d.buf)

namespace KeepsTable

theorem of_out {m m' : Machine} (h : m'.out = m.out) (hs : SameSlots m.d.buf m'.d.buf) :
    KeepsTable m m' := ⟨[], by rw [h, List.append_nil], fun _ => hs⟩

theorem of_obs {m m' : Machine} {o : Obs} (h : m'.out = m.out ++ [o])
    (hs : (∀ n r, o ≠ .configBufs n r) → SameSlots m.d.buf m'.d.buf) : KeepsTable m m' :=
  ⟨[o], h, fun hn => hs fun n r ho => hn n r (List.mem_singleton.mpr ho.symm)⟩

theorem trans {m m' m'' : Machine} (h : KeepsTable m m') (h' : KeepsTable m' m'') :
    KeepsTable m m'' := by
  obtain ⟨r, hr, hs⟩ := h
  obtain ⟨r', hr', hs'⟩ := h'
  refine ⟨r ++ r', by rw [hr', hr, List.append_assoc], fun hn => ?_⟩
  have hl := hs fun n x hm => hn n x (List.mem_append_left _ hm)
  exact hl.trans (hs' fun n x hm => hn n x (List.mem_append_right _ hm))

end KeepsTable

theorem aside_keepsTable : Aside KeepsTable where
  refl _ := .of_out rfl (.refl _)
  trans := .trans
  modBc _ _ := .of_out rfl (.refl _)
  wake _ _ := .of_out rfl (.refl _)
  setWakeline _ _ _ := .of_obs rfl fun _ => .refl _
  write _ _ _ _ := .of_obs rfl fun _ => .refl _
  posted _ _ _ := .of_obs rfl fun _ => .refl _
  timing := trivial
  ssi _ _ := trivial
  callStatus _ _ := .of_obs rfl fun _ => .refl _
  modBuf _ _ := .of_out rfl (.refl _)
  octets _ _ hd := .of_out rfl (.of_octets hd)
  version _ := .of_out rfl (.refl _)
  configBufs _ n res _ := .of_obs rfl fun hn => absurd rfl (hn n res)
  features _ _ _ := .of_out rfl (.refl _)
  count _ _ := .of_out rfl (.refl _)

/-- The copies in `priv->d` are never written: they stay as malloc has left them. -/
theorem aside_copies : Aside fun m m' =>
    m'.d.rxOffsets = m.d.rxOffsets ∧ m'.d.txOffsets = m.d.txOffsets where
  refl _ := ⟨rfl, rfl⟩
  trans h h' := ⟨h'.1.trans h.1, h'.2.trans h.2⟩
  modBc _ _ := ⟨rfl, rfl⟩
  wake _ _ := ⟨rfl, rfl⟩
  setWakeline _ _ _ := ⟨rfl, rfl⟩
  write _ _ _ _ := ⟨rfl, rfl⟩
  posted _ _ _ := ⟨rfl, rfl⟩
  timing := trivial
  ssi _ _ := trivial
  callStatus _ _ := ⟨rfl, rfl⟩
  modBuf _ _ := ⟨rfl, rfl⟩
  octets _ _ hd := by
    obtain ⟨bytes, swap, rfl⟩ := hd
    exact ⟨rfl, rfl⟩
  version _ := ⟨rfl, rfl⟩
  configBufs _ _ _ _ := ⟨rfl, rfl⟩
  features _ _ _ := ⟨rfl, rfl⟩
  count _ _ := ⟨rfl, rfl⟩

section
variable (m : Machine) (i : Step)

theorem copies_next :
    (nokiamodem.next m i).1.d.rxOffsets = m.d.rxOffsets ∧
      (nokiamodem.next m i).1.d.txOffsets = m.d.txOffsets := by
  obtain ⟨k, op⟩ := i
  refine aside_copies.run k m.begin op ?_ ?_ ?_ ?_ ?_
  · exact fun _ _ => ⟨rfl, rfl⟩
  · exact fun _ _ _ _ => ⟨rfl, rfl⟩
  · intro _ m
    rw [privDequeueControlEvent]
    split <;> exact ⟨rfl, rfl⟩
  · exact fun _ _ _ _ _ => ⟨rfl, rfl⟩
  · exact fun _ _ => ⟨rfl, rfl⟩

/-- An operation in which the driver is not asked keeps its table. -/
theorem sameSlots_next (hd : ∀ area, i.2 ≠ .driver area)
    (h : (nokiamodem.next m i).2.filter Obs.dataPath = []) :
    SameSlots m.d.buf (nokiamodem.next m i).1.d.buf := by
  obtain ⟨k, op⟩ := i
  have hrun : KeepsTable m.begin (op.run k m.begin) := by
    refine aside_keepsTable.run k m.begin op ?_ ?_ ?_ ?_ ?_
    · exact fun _ _ => .of_obs rfl fun _ => .refl _
    · exact fun _ _ _ _ => .of_obs rfl fun _ => .refl _
    · intro _ m
      rw [privDequeueControlEvent]
      split <;> exact .of_out rfl (.refl _)
    · exact fun _ _ _ _ _ => .of_obs rfl fun _ => .refl _
    · exact fun area hop => absurd hop (hd area)
  obtain ⟨rest, hout, hs⟩ := hrun
  refine hs fun n r hm => ?_
  have hmem : .configBufs n r ∈ (op.run k m.begin).out := by
    rw [hout]
    exact List.mem_append_right _ hm
  have hdata : .configBufs n r ∈ (op.run k m.begin).out.filter Obs.dataPath :=
    List.mem_filter.mpr ⟨hmem, rfl⟩
  rw [show (op.run k m.begin).out.filter Obs.dataPath = [] from h] at hdata
  cases hdata

end

/-! ### The table of a new layout -/

section
variable {k : Kernel} {m : Machine} {op : Op}

theorem sameSlots_privSetupAndSendSpeechConfigReply (ht : m.tick = 0) (hc : k.configBufs 1 = 0) :
    SameSlots (k.configArea 1) (privSetupAndSendSpeechConfigReply k m).2.d.buf := by
  have harea := (configures_privSetupDriverBufconfig k
    (m.modBuf fun b => { b with speechConfigRespPend := false })).area
  obtain ⟨-, hfst⟩ := privSetupDriverBufconfig_tick k
    (m.modBuf fun b => { b with speechConfigRespPend := false })
  rw [Machine.modBuf_tick, ht, Nat.zero_add] at harea hfst
  unfold privSetupAndSendSpeechConfigReply
  generalize privSetupDriverBufconfig k
    (m.modBuf fun b => { b with speechConfigRespPend := false }) = c at harea hfst
  have hok : c.1 = 0 := hfst.trans hc
  simp only [if_pos hok, if_neg (not_not.mpr hok)]
  rw [← harea]
  exact talks_privWrite talks_sameSlots k c.2 trivial

/-- A layout for a request is that of the table announced with it. -/
theorem sameSlots_of_comesToReply (h : ComesToReply m.buf op) (hc : k.configBufs 1 = 0) :
    SameSlots (k.configArea 1) (op.run k m.begin).d.buf := by
  -- Both releases come to the reply in the same way, once the lock of their buffer is off.
  have hlast (slot : Slot)
      (hlast : privLockedBufdescs (m.buf.mapFlags slot (· &&& ~~~bufLocked)) = 0) :
      SameSlots (k.configArea 1)
        (privDrvbufLayoutChangeBufferReleased k slot m.begin).d.buf := by
    have hreply := sameSlots_privSetupAndSendSpeechConfigReply (k := k)
      (m := m.begin.modBuf fun b => b.mapFlags slot (· &&& ~~~bufLocked)) rfl hc
    unfold privDrvbufLayoutChangeBufferReleased
    dsimp only
    rw [if_pos (by exact hlast)]
    split
    · exact hreply
    · exact hreply
  match op, h with
  | .checkPending true (some cmd), ⟨⟨hd, ht⟩, hfree⟩ =>
    obtain ⟨e, he⟩ := queues_handleInboundControlMessage k (m.begin.emit (.recv cmd)) hd
      (by rw [ht]; decide) (by rw [ht]; decide)
    have hrun : Op.run k m.begin (.checkPending true (some cmd)) =
        (handleInboundControlMessage k cmd (m.begin.emit (.recv cmd))).2.2 := rfl
    have hqueue (m : Machine) : (privQueueControlEvent e m).2.d.buf = m.d.buf := rfl
    rw [hrun, he, hqueue, handleCommandBackend_speechConfigReq k _ _ ht,
      bcHandleCommand_speechConfigReq k _ ht, privHandleSpeechConfig]
    dsimp only
    rw [if_pos (by exact hfree)]
    exact sameSlots_privSetupAndSendSpeechConfigReply rfl hc
  | .dlBufferRelease i, hc' =>
    rw [run_lastDlBuffer k hc']
    exact hlast _ hc'.2.2
  | .ulBufferRelease (some i), hc' =>
    rw [run_lastUlBuffer k hc']
    exact hlast _ hc'.2

/-- Quiet, with the same table: what the ramp does apart from its layout. -/
theorem talks_quietSlots :
    Talks NotReply fun m m' => Quiet m m' ∧ SameSlots m.d.buf m'.d.buf where
  refl m := ⟨.refl m, .refl _⟩
  trans h h' := ⟨h.1.trans h'.1, h.2.trans h'.2⟩
  modBc m f := ⟨talks_quiet.modBc m f, .refl _⟩
  wake m f := ⟨talks_quiet.wake m f, .refl _⟩
  setWakeline m status res := ⟨talks_quiet.setWakeline m status res, .refl _⟩
  write m msg res hm := ⟨talks_quiet.write m msg res hm, .refl _⟩
  posted m msg s := ⟨talks_quiet.posted m msg s, .refl _⟩
  timing := talks_quiet.timing
  ssi := talks_quiet.ssi

/-- The driver is asked for another slot size, and its table is the new one after it. -/
theorem area_privInitBufconfigForTestRampPing (ramplen : BitVec 8)
    (h : m.buf.slotSize ≠ testSlotSize ramplen) :
    (privInitBufconfigForTestRampPing k ramplen m).2.d.buf = k.configArea (m.tick + 1) := by
  rw [privInitBufconfigForTestRampPing, if_pos h]
  exact (configures_privSetupDriverBufconfig k _).area

/-- A layout for a test ramp is that of the table announced with it. -/
theorem sameSlots_of_relays (h : Relays m.buf.slotSize op) :
    SameSlots (k.configArea (op.rampCall m)) (op.run k m.begin).d.buf := by
  match op, h with
  | .checkPending true (some cmd), ⟨⟨hd, ht⟩, hz⟩ =>
    obtain ⟨m₁, h₁, htick, hp⟩ := talks_privHandleTestRampPing talks_quietSlots k
      (m.begin.emit (.recv cmd))
      (fun _ _ ho => ⟨.modD _ ho.same.rxOffsets, .of_octets ho⟩)
      (notReply_of_domain (by decide)) cmd
    have hrun : (Op.run k m.begin (.checkPending true (some cmd))).d.buf =
        (privHandleTestRampPing k cmd (m.begin.emit (.recv cmd))).2.d.buf := by
      show (handleInboundControlMessage k cmd (m.begin.emit (.recv cmd))).2.2.d.buf = _
      rw [handleInboundControlMessage, if_pos hd, bcHandleCommand_testRampPing k _ ht,
        if_neg (by simp), handleCommandBackend_testRampPing k _ _ ht, if_neg (by simp [ht])]
    -- Raising the line takes a call of the kernel before the layout, unless it is up already.
    have htick₁ : m₁.tick + 1 = Op.rampCall m (.checkPending true (some cmd)) := by
      rw [htick, tick_privAcquireWakeline, Op.rampCall]
      show 0 + (if m.d.wakelineUsers = 0 then 1 else 0) + 1 = _
      split <;> rfl
    have hne : m₁.buf.slotSize ≠ testSlotSize (msgDecodeTestRampPing cmd).ramplen := by
      rw [h₁.1.buf]
      exact hz
    rw [hrun, ← htick₁, ← area_privInitBufconfigForTestRampPing _ hne]
    exact hp.2
  | .testDataRampReq rampstart ramplen, hz =>
    have harea : (privInitBufconfigForTestRampPing k ramplen m.begin).2.d.buf = k.configArea 1 :=
      area_privInitBufconfigForTestRampPing ramplen hz
    show SameSlots (k.configArea 1) _
    rw [← harea]
    exact talks_testDataRampReq talks_sameSlots k m.begin trivial

end

/-! ### The sample layout -/

/-- The operations after which no sample layout is set any more, and the buffers stay. -/
inductive ForgetsLayout (s : BcState) : Op → Prop
  | resetConnResp {cmd : Cmd} (hw : ResetConnRespWord cmd) : ForgetsLayout s (.recv cmd)
  | ssiConfigResp {cmd : Cmd} (hw : SsiSuccessWord cmd) (hp : s.privState = .disconnecting) :
    ForgetsLayout s (.recv cmd)
  -- a call is started again after the server has crashed
  | crashed (hs : s.protoState = .activeDl ∨ s.protoState = .activeDlul)
      (hc : s.callServerActive = false) (hi : 0 < s.ioErrors) :
    ForgetsLayout s (.stateChangeCallStatus true)

namespace Protocol

variable {k : Kernel} {v v' : View} {o : List Obs} {op : Op} {cmd : Cmd}

theorem SendTiming.sampleLayout (h : SendTiming k v o v') :
    v'.bc.sampleLayout = v.bc.sampleLayout := by
  cases h <;> rfl

theorem SendReset.sampleLayout (h : SendReset k v o v') :
    v'.bc.sampleLayout = v.bc.sampleLayout := by
  cases h <;> rfl

theorem Posted.sampleLayout (h : Posted k v o v') : v'.bc.sampleLayout = v.bc.sampleLayout := by
  cases h with
  | start hs hp ht => exact ht.sampleLayout
  | close hs hp hc hq => exact hq.sampleLayout
  | _ => rfl

theorem SetupReply.sampleLayout (h : SetupReply k v o v') :
    v'.bc.sampleLayout = v.bc.sampleLayout := by
  cases h with
  | ok n hc hr =>
    cases hr with
    | full n hw hp => exact hp.sampleLayout
    | short n hw => rfl
  | failed n hc hr hs =>
    rw [hs.sampleLayout]
    cases hr <;> rfl

/-- A response that connects sets the layout; one that ends the connection forgets it. -/
theorem ProtoStep.layoutAfter (h : ProtoStep k (.recv cmd) v o v') (hw : SsiSuccessWord cmd)
    (hp : v.bc.privState ≠ .disconnecting) :
    v'.bc.sampleLayout = v.bc.layoutAfter (msgDecodeSsiConfigResp cmd) := by
  obtain ⟨⟨hd, ht⟩, hr⟩ := hw
  obtain ⟨o₁, e, v₁, -, hssi, rfl⟩ := h.recv_inv.ssiResp_inv k hd ht
  rw [afterSsiResp_bc, hssi.sampleLayout hr hp]

theorem ProtoStep.layout_forgotten (h : ProtoStep k op v o v') (hf : ForgetsLayout v.bc op) :
    v'.bc.sampleLayout = -1 := by
  cases hf with
  | resetConnResp hw =>
    obtain ⟨hd, ht⟩ := hw
    obtain ⟨o₁, e, -, hctl, -⟩ :=
      h.recv_inv.control_inv k hd (by rw [ht]; decide) (by rw [ht]; decide)
    cases hctl with
    | resetResp _ _ => rfl
    | resetRespConnect _ _ hs => exact hs.sampleLayout
    | _ => simp_all
  | ssiConfigResp hw hp =>
    obtain ⟨⟨hd, ht⟩, hr⟩ := hw
    obtain ⟨o₁, e, v₁, -, hssi, rfl⟩ := h.recv_inv.ssiResp_inv k hd ht
    rw [afterSsiResp_bc]
    cases hssi with
    | disconnected _ _ => rfl
    | errorPending hn => exact absurd hr hn
    | error hn => exact absurd hr hn
    | _ => simp_all
  -- The count of errors is positive, so that the call is taken for a crashed one.
  | crashed hs hc hi =>
    cases h with
    | callStatus h =>
      cases h with
      | connect hs' h => simp [hs'] at hs
      | reconnect hs' _ => simp [hs'] at hs
      | reset hs' h => rcases hs with hs | hs <;> simp [hs] at hs'
      | crashed _ _ _ hq => exact hq.sampleLayout
      | already h =>
        obtain ⟨hs', -⟩ | ⟨-, hc' | hi'⟩ := h
        · simp [hs'] at hs
        · simp [hc] at hc'
        · omega

/-- The other operations keep the layout, unless they connect or reset the buffers. -/
theorem ProtoStep.sampleLayout (h : ProtoStep k op v o v') (hf : ¬ ForgetsLayout v.bc op)
    (hr : ¬ ResetsBuffers v.bc op)
    (hs : ∀ cmd, op = .recv cmd → SsiSuccessWord cmd → v.bc.privState ≠ .connecting) :
    v'.bc.sampleLayout = v.bc.sampleLayout := by
  cases h with
  | @recv cmd v v' o h =>
    cases h with
    | control hd e h tstamp he =>
      cases h with
      | speechConfig ht h =>
        cases h with
        | now h => exact h.sampleLayout
        | defer => rfl
      | uplink ht =>
        rw [View.withBc_bc]
        split <;> rfl
      | timing ht =>
        rw [View.withBc_bc]
        obtain ⟨-, heq⟩ | ⟨-, -, heq⟩ | ⟨-, heq⟩ := bcHandleTimingConfigNtf_cases v.bc
        · rw [heq]
          rfl
        · rw [heq]
          rfl
        · rw [heq]
      -- The layout is set in CONNECTING and forgotten in DISCONNECTING; `hs` and `hf` exclude both.
      | ssiResp ht h =>
        have hw : SsiSuccessWord cmd :=
          ⟨⟨hd, ht⟩, not_not.mp fun hn => hr (Or.inr ⟨⟨hd, ht⟩, hn⟩)⟩
        have hp : v.bc.privState ≠ .disconnecting := fun hp => hf (.ssiConfigResp hw hp)
        rw [afterSsiResp_bc, h.sampleLayout hw.2 hp]
        exact if_neg (hs cmd rfl hw)
      | resetReq ht h => exact absurd (Or.inl ⟨1, Or.inl ⟨hd, ht, rfl⟩⟩) hr
      | resetResp ht hp => exact absurd (.resetConnResp ⟨hd, ht⟩) hf
      | resetRespConnect ht hp h => exact absurd (.resetConnResp ⟨hd, ht⟩) hf
    | testRamp hd ht h => cases h <;> rfl
    | csError hd ht e he => exact absurd (Or.inl ⟨0, Or.inr ⟨hd, ht, rfl⟩⟩) hr
    | _ => rfl
  | callStatus h =>
    cases h with
    | disconnect _ _ h => exact h.sampleLayout
    | connect _ h => exact h.sampleLayout
    | reset hs h => exact h.sampleLayout
    | crashed hs hc hi h => exact absurd (.crashed hs hc hi) hf
    | _ => rfl
  | error h => exact h.sampleLayout
  | sendTiming h => exact h.sampleLayout
  | sendSsi h => exact h.sampleLayout
  | testReq h => cases h <;> rfl
  | dlReleaseReply hp h => exact h.sampleLayout
  | ulReleaseReply hp h => exact h.sampleLayout
  | _ => rfl

end Protocol

/-! ### Kinds of operations -/

section
variable {m : Machine} {op : Op}

/-- The layout is forgotten with the descriptors left as they are. -/
theorem ForgetsLayout.rewrites_nothing (h : ForgetsLayout m.bcstate op) :
    RewritesNothing m op := by
  -- A word that is none of those that lay out buffers rewrites none.
  have hword {cmd : Cmd} (hd : msgGetDomain cmd = domainControl)
      (h₁ : msgGetType cmd ≠ speechConfigReq) (h₂ : msgGetType cmd ≠ testRampPing)
      (h₃ : msgGetType cmd ≠ resetConnReq)
      (h₄ : SsiConfigRespWord cmd →
        (msgDecodeSsiConfigResp cmd).result = ssiConfigResSuccess ∧
          m.bcstate.privState = .disconnecting) :
      RewritesNothing m (.recv cmd) := by
    refine ⟨fun h => h₁ h.1.2, ?_, fun h => h₂ h.1.2, fun h => h₁ h.1.2, ?_⟩
    · rintro (⟨c, ⟨-, h, -⟩ | ⟨h, -⟩⟩ | ⟨hw, hn⟩)
      · exact h₃ h
      · exact absurd (hd.symm.trans h) (by decide)
      · exact hn (h₄ hw).1
    · rintro slotbuf ⟨hw, -, -, hp, -⟩
      exact hp (h₄ hw).2
  cases h with
  | resetConnResp hw =>
    obtain ⟨hd, ht⟩ := hw
    exact hword hd (by rw [ht]; decide) (by rw [ht]; decide) (by rw [ht]; decide)
      fun hw => absurd (ht.symm.trans hw.2) (by decide)
  | ssiConfigResp hw hp =>
    have ht := hw.1.2
    exact hword hw.1.1 (by rw [ht]; decide) (by rw [ht]; decide) (by rw [ht]; decide)
      fun _ => ⟨hw.2, hp⟩
  | crashed hs _ _ =>
    refine ⟨id, fun h => ?_, id, id, fun _ hm => nomatch hm⟩
    have h' : m.bcstate.protoState = .invalid ∨ m.bcstate.protoState = .testRampPingActive := h
    rcases hs with hs | hs <;> simp [hs] at h'

/-- What neither forgets the layout nor rewrites descriptors keeps it. -/
theorem sampleLayout_next {i : Step} (hf : ¬ ForgetsLayout m.bcstate i.2)
    (hr : ¬ ResetsBuffers m.bcstate i.2)
    (hs : ∀ cmd, i.2 = .recv cmd → SsiSuccessWord cmd → m.bcstate.privState ≠ .connecting) :
    (nokiamodem.next m i).1.bcstate.sampleLayout = m.bcstate.sampleLayout := by
  have hstep : ProtoStep i.1 i.2 m.view _ (nokiamodem.next m i).1.view := nokiamodem_refines m i
  exact hstep.sampleLayout hf hr hs

end

/-! ### Agreement -/

/-- The last `CS_CONFIG_BUFS`: the slot size and the driver's answer.  The library does not keep
it; it is read off what a run does. -/
def lastConfig (g : Option (ℕ × ℤ)) : Obs → Option (ℕ × ℤ)
  | .configBufs n res => some (n, res)
  | _ => g

/-- There are slots, the driver has accepted the last configuration, and no other is pending.
Only then does it make sense to ask where the slots are. -/
structure Settled (b : BufState) (g : Option (ℕ × ℤ)) : Prop where
  slots : 0 < b.slotSize
  config : g = some (b.slotSize, 0)
  respPend : b.speechConfigRespPend = false

/-- Where the application finds the frame of a downlink slot: in the mapped area, or, where the
samples are swapped, in the copy that the library makes. -/
def MmapArea.dlSlot (area : MmapArea) (sampleLayout : ℤ) (slotSize : ℕ) (i : Fin dlSlots) : Ptr :=
  if sampleLayout = sampleLayoutSwappedLe then .dlswap (i * slotSize)
  else .mmap (area.rxOffsets i)

/-- The slots are where the driver has put them: the descriptors point at the offsets of the
mapped area, or at the swap buffer where the samples are swapped, and the library's own copies of
the offsets are the driver's. -/
structure SlotsAgree (b : BufState) (d : DriverState) (sampleLayout : ℤ) : Prop where
  dl : ∀ i, (b.layout (.dl i)).data = d.buf.dlSlot sampleLayout b.slotSize i
  /-- Frames are copied to the swap buffer from there. -/
  source : sampleLayout = sampleLayoutSwappedLe → ∀ i, d.rxOffsets i = d.buf.rxOffsets i
  /-- A test ramp is generated there. -/
  ramp : d.txOffsets 0 = d.buf.txOffsets 0

/-- A new layout does not fit the sample layout, or the copy of its table. -/
def Misfits (s : BcState) (d : DriverState) (area : MmapArea) : Prop :=
  s.sampleLayout = sampleLayoutSwappedLe ∨ d.txOffsets 0 ≠ area.txOffsets 0

/-- The driver has moved slots in use, and announces it to nobody. -/
def MovesSlots (d : DriverState) : Op → Prop
  | .driver area =>
    (∃ i, area.rxOffsets i ≠ d.buf.rxOffsets i) ∨ area.txOffsets 0 ≠ d.buf.txOffsets 0
  | _ => False

/-- The steps after which the slots are not where the driver has put them.  `g` is the last
configuration, with the answer of the driver. -/
inductive MisplacesSlots (m : Machine) (g : Option (ℕ × ℤ)) (k : Kernel) (op : Op) : Prop
  /-- A layout is configured for a request. -/
  | start (h : ComesToReply m.buf op) (hz : op.requestedSlotSize m.buf ≠ 0)
      (hc : k.configBufs 1 = 0) (ha : Misfits m.bcstate m.d (k.configArea 1))
  /-- A layout is configured for a test ramp. -/
  | relay (h : Relays m.buf.slotSize op) (hc : k.configBufs (op.rampCall m) = 0)
      (hp : m.buf.speechConfigRespPend = false)
      (ha : Misfits m.bcstate m.d (k.configArea (op.rampCall m)))
  /-- An `SSI_CONFIG_RESP` makes new descriptors from the copy of the table. -/
  | moveDl {slotbuf : Fin dlSlots → Ptr} (hs : Settled m.buf g) (h : MovesDl m op slotbuf)
      {i : Fin dlSlots} (hi : m.d.rxOffsets i ≠ m.d.buf.rxOffsets i)
  /-- The samples are not swapped any more, and the frames stay in the swap buffer. -/
  | forget (hs : Settled m.buf g) (h : ForgetsLayout m.bcstate op)
      (hl : m.bcstate.sampleLayout = sampleLayoutSwappedLe)
  | driver (hs : Settled m.buf g) (h : MovesSlots m.d op)

section
variable {m : Machine} {g : Option (ℕ × ℤ)} {k : Kernel} {op : Op}

/-- The driver moves slots while nothing else happens. -/
theorem MovesSlots.rewrites_nothing (h : MovesSlots m.d op) : RewritesNothing m op := by
  match op, h with
  | .driver area, _ => exact ⟨id, id, id, id, fun _ hm => nomatch hm⟩

theorem misplaces_iff_of_reply (h : ComesToReply m.buf op) :
    MisplacesSlots m g k op ↔ op.requestedSlotSize m.buf ≠ 0 ∧ k.configBufs 1 = 0 ∧
      Misfits m.bcstate m.d (k.configArea 1) := by
  constructor
  · intro hm
    cases hm with
    | start _ hz hc ha => exact ⟨hz, hc, ha⟩
    | relay hr => exact absurd hr h.rewrites_nothing.2.1
    | moveDl _ hm => exact absurd hm (h.rewrites_nothing.2.2.2 _)
    | forget _ hf => exact absurd h hf.rewrites_nothing.comes
    | driver _ hd => exact absurd h hd.rewrites_nothing.comes
  · rintro ⟨hz, hc, ha⟩
    exact .start h hz hc ha

theorem misplaces_iff_of_relays (h : Relays m.buf.slotSize op) :
    MisplacesSlots m g k op ↔ k.configBufs (op.rampCall m) = 0 ∧
      m.buf.speechConfigRespPend = false ∧
      Misfits m.bcstate m.d (k.configArea (op.rampCall m)) := by
  constructor
  · intro hm
    cases hm with
    | start hc => exact absurd h hc.rewrites_nothing.2.1
    | relay _ hc hp ha => exact ⟨hc, hp, ha⟩
    | moveDl _ hm => exact absurd h hm.exclusive.2.1
    | forget _ hf => exact absurd h hf.rewrites_nothing.relays
    | driver _ hd => exact absurd h hd.rewrites_nothing.relays
  · rintro ⟨hc, hp, ha⟩
    exact .relay h hc hp ha

theorem misplaces_iff_of_movesDl {slotbuf : Fin dlSlots → Ptr} (h : MovesDl m op slotbuf) :
    MisplacesSlots m g k op ↔
      Settled m.buf g ∧ ∃ i, m.d.rxOffsets i ≠ m.d.buf.rxOffsets i := by
  constructor
  · intro hm
    cases hm with
    | start hc => exact absurd h (hc.rewrites_nothing.2.2.2 _)
    | relay hr => exact absurd hr h.exclusive.2.1
    | moveDl hs _ hi => exact ⟨hs, _, hi⟩
    | forget _ hf => exact absurd h (hf.rewrites_nothing.moves _)
    | driver _ hd => exact absurd h (hd.rewrites_nothing.moves _)
  · rintro ⟨hs, i, hi⟩
    exact .moveDl hs h hi

theorem misplaces_iff_of_keeps (h : RewritesNothing m op) :
    MisplacesSlots m g k op ↔ Settled m.buf g ∧
      (ForgetsLayout m.bcstate op ∧ m.bcstate.sampleLayout = sampleLayoutSwappedLe ∨
        MovesSlots m.d op) := by
  constructor
  · intro hm
    cases hm with
    | start hc => exact absurd hc h.comes
    | relay hr => exact absurd hr h.relays
    | moveDl _ hm => exact absurd hm (h.moves _)
    | forget hs hf hl => exact ⟨hs, Or.inl ⟨hf, hl⟩⟩
    | driver hs hd => exact ⟨hs, Or.inr hd⟩
  · rintro ⟨hs, ⟨hf, hl⟩ | hd⟩
    · exact .forget hs hf hl
    · exact .driver hs hd

theorem not_misplaces (h : ResetsBuffers m.bcstate op ∨ Postpones m.buf op) :
    ¬ MisplacesSlots m g k op := by
  intro hm
  cases hm with
  | start hc => exact h.elim hc.rewrites_nothing.1 hc.rewrites_nothing.2.2.1
  | relay hr => exact h.elim hr.exclusive.1 hr.exclusive.2
  | moveDl _ hm => exact h.elim hm.exclusive.1 hm.exclusive.2.2
  | forget _ hf => exact h.elim hf.rewrites_nothing.resets hf.rewrites_nothing.postpones
  | driver _ hd => exact h.elim hd.rewrites_nothing.resets hd.rewrites_nothing.postpones

end

section
variable {b b' : BufState} {d d' : DriverState} {l : ℤ}

/-- The frames stay, so the table must stay: the slots still agree if and only if the driver's
offsets are the ones they were built from. -/
theorem SlotsAgree.kept_iff (h : SlotsAgree b d l)
    (hb : ∀ i, b'.layout (.dl i) = b.layout (.dl i)) (hz : b'.slotSize = b.slotSize)
    (hd : d'.rxOffsets = d.rxOffsets ∧ d'.txOffsets = d.txOffsets) :
    SlotsAgree b' d' l ↔ (∀ i, d'.buf.rxOffsets i = d.buf.rxOffsets i) ∧
      d'.buf.txOffsets 0 = d.buf.txOffsets 0 := by
  constructor
  · intro h'
    refine ⟨fun i => ?_, ?_⟩
    · by_cases hl : l = sampleLayoutSwappedLe
      · rw [← h'.source hl, hd.1, h.source hl]
      · have hdl := (h'.dl i).symm.trans ((congrArg Layout.data (hb i)).trans (h.dl i))
        rw [MmapArea.dlSlot, if_neg hl, MmapArea.dlSlot, if_neg hl] at hdl
        exact Ptr.mmap.inj hdl
    · rw [← h'.ramp, hd.2, h.ramp]
  · rintro ⟨hrx, htx⟩
    refine ⟨fun i => ?_, fun hl i => ?_, ?_⟩
    · rw [hb, h.dl, hz, MmapArea.dlSlot, MmapArea.dlSlot, hrx]
    · rw [hd.1, hrx]
      exact h.source hl i
    · rw [hd.2, htx]
      exact h.ramp

/-- Between two sample layouts that are not swapped. -/
theorem SlotsAgree.relabel {l' : ℤ} (h : SlotsAgree b d l) (hl : l ≠ sampleLayoutSwappedLe)
    (hl' : l' ≠ sampleLayoutSwappedLe) : SlotsAgree b d l' where
  dl i := by
    rw [h.dl, MmapArea.dlSlot, if_neg hl, MmapArea.dlSlot, if_neg hl']
  source hs := absurd hs hl'
  ramp := h.ramp

/-- A new layout agrees unless the samples are swapped, or the copy is another table. -/
theorem BufState.LaidOut.agree_iff {area : MmapArea} {n : ℕ} (h : b.LaidOut area n)
    (hs : SameSlots area d.buf) :
    SlotsAgree b d l ↔ ¬ (l = sampleLayoutSwappedLe ∨ d.txOffsets 0 ≠ area.txOffsets 0) := by
  constructor
  · rintro ha (hl | ht)
    · have hdl := ha.dl 0
      rw [h.dl 0, MmapArea.dlSlot, if_pos hl] at hdl
      cases hdl
    · exact ht (ha.ramp.trans (congrFun hs.tx 0))
  · intro hn
    obtain ⟨hl, ht⟩ := not_or.mp hn
    refine ⟨fun i => ?_, fun h => absurd h hl, ?_⟩
    · rw [h.dl i, MmapArea.dlSlot, if_neg hl, hs.rx]
      rfl
    · rw [hs.tx]
      exact not_not.mp ht

/-- After new descriptors are made from the copy, the copy must be the table. -/
theorem slotsAgree_movedDl_iff (hs : SameSlots d.buf d'.buf)
    (hd : d'.rxOffsets = d.rxOffsets ∧ d'.txOffsets = d.txOffsets)
    (ht : d.txOffsets 0 = d.buf.txOffsets 0) :
    SlotsAgree (b.movedDl (d.dlSlotbuf l b.slotSize)) d' l ↔
      ∀ i, d.rxOffsets i = d.buf.rxOffsets i := by
  have hdata (i : Fin dlSlots) :
      ((b.movedDl (d.dlSlotbuf l b.slotSize)).layout (.dl i)).data =
        d.dlSlotbuf l b.slotSize i := rfl
  constructor
  · intro ha i
    -- In the swapped layout the descriptors point into the heap, and agree on the frames only by
    -- the offsets they are copied from.
    by_cases hl : l = sampleLayoutSwappedLe
    · rw [← hd.1, ← hs.rx]
      exact ha.source hl i
    · have hdl := ha.dl i
      rw [hdata, DriverState.dlSlotbuf, if_neg hl, MmapArea.dlSlot, if_neg hl, hs.rx] at hdl
      exact Ptr.mmap.inj hdl
  · intro hrx
    refine ⟨fun i => ?_, fun _ i => ?_, ?_⟩
    · rw [hdata, DriverState.dlSlotbuf, MmapArea.dlSlot, hs.rx, hrx]
      rfl
    · rw [hd.1, hs.rx]
      exact hrx i
    · rw [hd.2, hs.tx]
      exact ht

theorem settled_congr {g : Option (ℕ × ℤ)} (hz : b'.slotSize = b.slotSize)
    (hp : b'.speechConfigRespPend = b.speechConfigRespPend) : Settled b' g ↔ Settled b g := by
  constructor
  · rintro ⟨h₁, h₂, h₃⟩
    exact ⟨hz ▸ h₁, hz ▸ h₂, hp ▸ h₃⟩
  · rintro ⟨h₁, h₂, h₃⟩
    exact ⟨hz.symm ▸ h₁, hz.symm ▸ h₂, hp.trans h₃⟩

theorem not_settled_of_slotSize {g : Option (ℕ × ℤ)} (h : b.slotSize = 0) : ¬ Settled b g :=
  fun hs => hs.slots.ne' h

end

theorem foldl_lastConfig (g : Option (ℕ × ℤ)) (out : List Obs) :
    out.foldl lastConfig g = (out.filter Obs.dataPath).foldl lastConfig g := by
  refine (Lts.foldl_visible ?_ g out).symm
  intro g o ho
  cases o with
  | configBufs n res => cases ho
  | _ => rfl

/-! ### One step -/

section
variable {m : Machine} {g : Option (ℕ × ℤ)} {i : Step}

/-- Without a configuration, only the driver itself can change its table. -/
theorem table_kept_iff (hlog : (nokiamodem.next m i).2.filter Obs.dataPath = []) :
    ((∀ j, (nokiamodem.next m i).1.d.buf.rxOffsets j = m.d.buf.rxOffsets j) ∧
        (nokiamodem.next m i).1.d.buf.txOffsets 0 = m.d.buf.txOffsets 0) ↔
      ¬ MovesSlots m.d i.2 := by
  obtain ⟨k, op⟩ := i
  by_cases hop : ∃ area, op = .driver area
  · obtain ⟨area, rfl⟩ := hop
    rw [MovesSlots, not_or, not_exists, not_not]
    exact and_congr_left' (forall_congr' fun j => not_not.symm)
  · have hno := not_exists.mp hop
    have hs : SameSlots m.d.buf (nokiamodem.next m (k, op)).1.d.buf := sameSlots_next m _ hno hlog
    refine iff_of_true ⟨congrFun hs.rx, congrFun hs.tx 0⟩ fun h => ?_
    match op, h with
    | .driver area, _ => exact hno area rfl

/-- The slots stay where they are, unless the layout is forgotten or the driver moves them. -/
theorem slotsAgree_kept (ha : SlotsAgree m.buf m.d m.bcstate.sampleLayout)
    (hz : 0 < m.buf.slotSize) (hk : Keeps m i.2 (nokiamodem.next m i).1.buf)
    (hsize : (nokiamodem.next m i).1.buf.slotSize = m.buf.slotSize)
    (hn : RewritesNothing m i.2) (hlog : (nokiamodem.next m i).2.filter Obs.dataPath = []) :
    SlotsAgree (nokiamodem.next m i).1.buf (nokiamodem.next m i).1.d
        (nokiamodem.next m i).1.bcstate.sampleLayout ↔
      ¬ (ForgetsLayout m.bcstate i.2 ∧ m.bcstate.sampleLayout = sampleLayoutSwappedLe ∨
        MovesSlots m.d i.2) := by
  have hlay (j : Fin dlSlots) : (nokiamodem.next m i).1.buf.layout (.dl j) = m.buf.layout (.dl j) :=
    hk.layout _
  have hkept := ha.kept_iff hlay hsize (copies_next m i)
  rw [table_kept_iff hlog] at hkept
  by_cases hf : ForgetsLayout m.bcstate i.2
  · have hstep : ProtoStep i.1 i.2 m.view _ (nokiamodem.next m i).1.view := nokiamodem_refines m i
    have hl : (nokiamodem.next m i).1.bcstate.sampleLayout = -1 := hstep.layout_forgotten hf
    have hns : (-1 : ℤ) ≠ sampleLayoutSwappedLe := by decide
    rw [hl]
    constructor
    · intro ha'
      -- the descriptors are the same, for one layout and for the other
      have hdl := (ha'.dl 0).symm.trans ((congrArg Layout.data (hlay 0)).trans (ha.dl 0))
      have hl' : m.bcstate.sampleLayout ≠ sampleLayoutSwappedLe := by
        intro hs
        rw [MmapArea.dlSlot, if_neg hns, MmapArea.dlSlot, if_pos hs] at hdl
        cases hdl
      exact not_or.mpr ⟨fun h => hl' h.2, hkept.mp (ha'.relabel hns hl')⟩
    · intro hno
      obtain ⟨hl', hd⟩ := not_or.mp hno
      exact (hkept.mpr hd).relabel (fun h => hl' ⟨hf, h⟩) hns
  · rw [sampleLayout_next hf hn.resets ?_, hkept]
    · exact not_congr (or_iff_right fun h => hf h.1).symm
    · intro cmd hop hw hp
      have hdis : m.bcstate.privState ≠ .disconnecting := by
        rw [hp]
        decide
      have hmoves := MovesDl.ssiConfigResp hw.1 hw.2 hz hdis fun _ => Or.inl hp
      rw [← hop] at hmoves
      exact hn.moves _ hmoves

/-- A new layout is made for the sample layout in force. -/
theorem slotsAgree_laidOut {area : MmapArea} {n : ℕ}
    (hb : (nokiamodem.next m i).1.buf.LaidOut area n)
    (hs : SameSlots area (nokiamodem.next m i).1.d.buf)
    (hl : (nokiamodem.next m i).1.bcstate.sampleLayout = m.bcstate.sampleLayout) :
    SlotsAgree (nokiamodem.next m i).1.buf (nokiamodem.next m i).1.d
        (nokiamodem.next m i).1.bcstate.sampleLayout ↔ ¬ Misfits m.bcstate m.d area := by
  rw [hb.agree_iff hs, hl, (copies_next m i).2]
  exact Iff.rfl

/-- A layout that is made for a request or for a test ramp leaves the sample layout. -/
theorem sampleLayout_configured (h : ComesToReply m.buf i.2 ∨ Relays m.buf.slotSize i.2) :
    (nokiamodem.next m i).1.bcstate.sampleLayout = m.bcstate.sampleLayout := by
  refine sampleLayout_next (fun hf => ?_) (fun hr => ?_) fun cmd hop hw _ => ?_
  · exact h.elim hf.rewrites_nothing.comes hf.rewrites_nothing.relays
  · exact h.elim (fun hc => hc.rewrites_nothing.1 hr) fun h => h.exclusive.1 hr
  · rw [hop] at h
    rcases h with h | h
    · exact absurd (hw.1.2.symm.trans h.1.2) (by decide)
    · exact absurd (hw.1.2.symm.trans h.1.2) (by decide)

/-- New descriptors are made for the sample layout of the response. -/
theorem slotsAgree_moved (ha : SlotsAgree m.buf m.d m.bcstate.sampleLayout)
    {slotbuf : Fin dlSlots → Ptr} (hm : MovesDl m i.2 slotbuf)
    (hlog : (nokiamodem.next m i).2.filter Obs.dataPath = []) :
    SlotsAgree (m.buf.movedDl slotbuf) (nokiamodem.next m i).1.d
        (nokiamodem.next m i).1.bcstate.sampleLayout ↔
      ∀ j, m.d.rxOffsets j = m.d.buf.rxOffsets j := by
  obtain ⟨k, op⟩ := i
  cases hm with
  | @ssiConfigResp cmd hw hr hz hp _ =>
    have hstep : ProtoStep k (.recv cmd) m.view _ (nokiamodem.next m (k, .recv cmd)).1.view :=
      nokiamodem_refines m (k, .recv cmd)
    have hl : (nokiamodem.next m (k, .recv cmd)).1.bcstate.sampleLayout =
        m.bcstate.layoutAfter (msgDecodeSsiConfigResp cmd) := hstep.layoutAfter ⟨hw, hr⟩ hp
    rw [hl]
    exact slotsAgree_movedDl_iff (sameSlots_next m _ nofun hlog) (copies_next m _) ha.ramp

/-- One step keeps the slots in place, unless it is one of those that misplace them. -/
theorem slotsAgree_next
    (hq : Settled m.buf g → SlotsAgree m.buf m.d m.bcstate.sampleLayout) :
    (Settled (nokiamodem.next m i).1.buf ((nokiamodem.next m i).2.foldl lastConfig g) →
        SlotsAgree (nokiamodem.next m i).1.buf (nokiamodem.next m i).1.d
          (nokiamodem.next m i).1.bcstate.sampleLayout) ↔
      ¬ MisplacesSlots m g i.1 i.2 := by
  have hout := dataOutcome m i
  have hkept := slotsAgree_kept (m := m) (i := i)
  have hmoved := @slotsAgree_moved m i
  have hlaid := @slotsAgree_laidOut m i
  rw [foldl_lastConfig]
  generalize (nokiamodem.next m i).2.filter Obs.dataPath = o at hout hkept hmoved ⊢
  generalize (nokiamodem.next m i).1.buf = b' at hout hkept hlaid ⊢
  cases hout with
  | keep hk hz hn =>
    rw [misplaces_iff_of_keeps hn]
    have hset : Settled b' g ↔ Settled m.buf g := settled_congr hz hk.respPend
    by_cases hs : Settled m.buf g
    · rw [and_iff_right hs, ← hkept (hq hs) hs.slots hk hz hn rfl]
      exact imp_iff_right (hset.mpr hs)
    · exact iff_of_true (fun h => absurd (hset.mp h) hs) fun h => hs h.1
  | postpone hp hb hz =>
    refine iff_of_true (fun hs => ?_) (not_misplaces (Or.inr hp))
    exact absurd (hs.respPend.symm.trans hb.respPend) (by decide)
  -- No slots are left, and there is nothing to agree on.
  | stop hc hz hconf =>
    rw [misplaces_iff_of_reply hc]
    exact iff_of_true (fun hs => absurd hs (not_settled_of_slotSize rfl)) fun h => h.1 hz
  | start hc hz hconf hb hp =>
    rw [misplaces_iff_of_reply hc, and_iff_right hz, and_iff_right hconf,
      ← hlaid hb (sameSlots_of_comesToReply hc hconf) (sampleLayout_configured (Or.inl hc))]
    refine imp_iff_right ⟨?_, ?_, hp⟩
    · rw [hb.slotSize]
      exact Nat.pos_of_ne_zero hz
    · rw [hb.slotSize]
      rfl
  | refuse hc hconf r =>
    rw [misplaces_iff_of_reply hc]
    exact iff_of_true (fun hs => absurd hs (not_settled_of_slotSize rfl)) fun h => hconf h.2.1
  | reset hr r =>
    exact iff_of_true (fun hs => absurd hs (not_settled_of_slotSize rfl))
      (not_misplaces (Or.inl hr))
  -- A ramp lays out slots of its own; while a reply is pending they do not count.
  | relay hr hconf hb hp =>
    rw [misplaces_iff_of_relays hr, and_iff_right hconf]
    by_cases hpend : m.buf.speechConfigRespPend = false
    · rw [and_iff_right hpend,
        ← hlaid hb (sameSlots_of_relays hr) (sampleLayout_configured (Or.inr hr))]
      refine imp_iff_right ⟨?_, ?_, hp.trans hpend⟩
      · rw [hb.slotSize]
        exact Nat.pos_of_ne_zero (@rampOutcome_of_relays i.1 m i.2 hr).slotSize_ne
      · rw [hb.slotSize]
        rfl
    · exact iff_of_true (fun hs => absurd (hp.symm.trans hs.respPend) hpend)
        fun h => hpend h.1
  | relayRefused hr hconf =>
    rw [misplaces_iff_of_relays hr]
    refine iff_of_true (fun hs => ?_) fun h => hconf h.1
    exact absurd (congrArg Prod.snd (Option.some.inj hs.config)) hconf
  | @moveDl slotbuf hm =>
    rw [misplaces_iff_of_movesDl hm]
    have hset : Settled (m.buf.movedDl slotbuf) g ↔ Settled m.buf g := settled_congr rfl rfl
    by_cases hs : Settled m.buf g
    · rw [and_iff_right hs, not_exists_not, ← hmoved (hq hs) hm rfl]
      exact imp_iff_right (hset.mpr hs)
    · exact iff_of_true (fun h => absurd (hset.mp h) hs) fun h => hs h.1

end

/-- **The slots are where the driver has put them**, throughout a run from `cmtspeech_open`,
whenever the last configuration has succeeded and no other is pending, if and only if no step
misplaces them. -/
theorem slotsAgree_iff {m : Machine} (hm : nokiamodem.init m) (is : List Step) :
    (nokiamodem.withGhost none lastConfig).Always
        (fun p => Settled p.1.buf p.2 → SlotsAgree p.1.buf p.1.d p.1.bcstate.sampleLayout)
        (m, none) is ↔
      (nokiamodem.withGhost none lastConfig).Along
        (fun p i => ¬ MisplacesSlots p.1 p.2 i.1 i.2) (m, none) is := by
  have hopen : ¬ Settled m.buf none := by
    obtain ⟨area, old, rfl⟩ := hm
    exact not_settled_of_slotSize rfl
  refine (nokiamodem.withGhost none lastConfig).always_iff_along (I := fun _ => True)
    (P := fun _ _ => True) (fun _ _ _ _ _ _ => trivial) ?_ trivial (fun h => absurd h hopen)
    (Lts.along_true _ _ _)
  intro p i _ hq _
  exact slotsAgree_next hq

/-- Every call succeeds, and the slots of a stream at 8 kHz share the mapped page. -/
def Kernel.onePage : Kernel :=
  { Kernel.accepting with
    configArea := fun _ =>
      { MmapArea.blank with
        rxOffsets := fun i => 384 * (i + 1)
        txOffsets := fun i => 384 * (i + 4) } }

/-- The modem wants swapped samples, and asks for a stream. -/
def swappedRun : List Step :=
  [(.onePage, .stateChangeCallStatus true), (.onePage, .recv (msgEncodeSsiConfigResp 1 0)),
    (.onePage, .recv (msgEncodeSpeechConfigReq
      { speechDataStream := 1, callUserConnectingInd := 0, codecInfo := 0, cellularInfo := 0
        sampleRate := 1, dataFormat := 0 }))]

/-- A run that ends settled: the driver has taken the slot size, and no layout is asked for. -/
theorem slotsAgree_swappedLayout :
    (nokiamodem.withGhost none lastConfig).Always
        (fun p => Settled p.1.buf p.2 → SlotsAgree p.1.buf p.1.d p.1.bcstate.sampleLayout)
        (Machine.fresh, none) swappedRun ↔
      (nokiamodem.withGhost none lastConfig).Along
        (fun p i => ¬ MisplacesSlots p.1 p.2 i.1 i.2) (Machine.fresh, none) swappedRun :=
  slotsAgree_iff init_fresh swappedRun

/-- The descriptors stay in the mapped area, and the copies are those of no table. -/
theorem slotsAgree_swapped :
    nokiamodem.init Machine.fresh ∧
      (∀ i ∈ swappedRun, i.1.WritesSucceed ∧ i.1.IoctlsSucceed) ∧
      ¬ (nokiamodem.withGhost none lastConfig).Always
        (fun p => Settled p.1.buf p.2 → SlotsAgree p.1.buf p.1.d p.1.bcstate.sampleLayout)
        (Machine.fresh, none) swappedRun := by
  refine ⟨init_fresh, ?_, ?_⟩
  · have hk : Kernel.onePage.WritesSucceed ∧ Kernel.onePage.IoctlsSucceed :=
      ⟨accepting_writesSucceed, accepting_ioctlsSucceed⟩
    simp only [swappedRun, List.forall_mem_cons]
    exact ⟨hk, hk, hk, by simp⟩
  · intro h
    have hdl := (h swappedRun List.prefix_rfl ⟨by decide, by decide, by decide⟩).dl 0
    exact absurd hdl (by decide)

end CmtSpeech
