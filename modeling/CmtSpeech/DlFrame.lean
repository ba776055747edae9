import CmtSpeech.FrameLayout
import CmtSpeech.Memory
import CmtSpeech.SlotAddress

/-!
# The frame that is given out

`cmtspeech_dl_buffer_acquire` decodes the header in the buffer of the descriptor, and copies the
frame to the buffer after that.  Where the buffer is the driver's slot itself, the header is that
of the frame; in the swap buffer it is that of the frame before.

* `BufState.Formed` — a descriptor that may be given out has a layout.
* `Describes` — the buffer that is given out describes the frame in the driver's slot, and
  contains its payload.
* `Faithful` — the frame is `VALID`, and the library looks where it lies.

## Main result

* `acquired_describes_iff`
-/

namespace CmtSpeech

/-! ### Layouts -/

/-- The descriptors are moved to a buffer that is there. -/
theorem MovesDl.slotbuf_ne_null {m : Machine} {op : Op} {slotbuf : Fin dlSlots → Ptr}
    (h : MovesDl m op slotbuf) (i : Fin dlSlots) : slotbuf i ≠ .null := by
  cases h with
  | ssiConfigResp =>
    unfold DriverState.dlSlotbuf
    split
    · exact Ptr.noConfusion
    · exact Ptr.noConfusion

/-- A descriptor that may be given out has the layout of some frame: it points somewhere, for the
whole of a slot, and carries the index of its slot. -/
def BufState.Formed (b : BufState) : Prop :=
  ∀ s, ¬ b.Invalid s → ∃ p n, p ≠ .null ∧ b.layout s = .of p n s.index

namespace BufState.Formed

theorem of_invalid {b : BufState} (h : ∀ s, b.Invalid s) : b.Formed :=
  fun s hv => absurd (h s) hv

theorem reset : privResetBufStateToDisconnected.Formed :=
  of_invalid fun s => invalid_invalidate _ s

theorem of_laidOut {b : BufState} {area : MmapArea} {n : ℕ} (h : b.LaidOut area n) :
    b.Formed := by
  intro s _
  cases s with
  | ul i => exact ⟨_, _, Ptr.noConfusion, h.ul i⟩
  | dl i => exact ⟨_, _, Ptr.noConfusion, h.dl i⟩

/-- One operation keeps the descriptors formed as they are laid out. -/
theorem next {m : Machine} (h : m.buf.Formed) (i : Step) :
    (nokiamodem.next m i).1.buf.Formed := by
  have hout := dataOutcome m i
  generalize (nokiamodem.next m i).2.filter Obs.dataPath = o at hout
  generalize (nokiamodem.next m i).1.buf = b' at hout ⊢
  cases hout with
  | keep hk _ _ =>
    intro s hv
    rw [hk.layout]
    exact h s fun hi => hv ((hk.invalid s).mpr hi)
  | postpone _ hb _ => exact of_invalid hb.invalid
  | start _ _ _ hb _ => exact of_laidOut hb
  | relay _ _ hb _ => exact of_laidOut hb
  | relayRefused _ _ => exact h
  | moveDl hm =>
    intro s hv
    cases s with
    | ul j => exact h (.ul j) hv
    | dl j => exact ⟨_, _, hm.slotbuf_ne_null j, rfl⟩
  | stop | refuse | reset => exact reset

theorem reachable {m : Machine} (h : nokiamodem.Reachable m) : m.buf.Formed := by
  obtain ⟨m₀, is, ⟨area, old, rfl⟩, rfl⟩ := h
  exact nokiamodem.exec_invariant (I := fun m => m.buf.Formed) (P := fun _ _ => True)
    (fun _ i h _ => h.next i) reset (nokiamodem.along_true _ _)

end BufState.Formed

/-! ### Headers -/

/-- `cmtspeech_buffer_codec_sample_rate`: the two low bits of what the library keeps. -/
def bufferCodecSampleRate {n : ℕ} (bd : Buffer n) : BitVec 8 := bd.reserved0 &&& 3

/-- `cmtspeech_buffer_sample_rate`: the two bits above those. -/
def bufferSampleRate {n : ℕ} (bd : Buffer n) : BitVec 8 := (bd.reserved0 >>> 2) &&& 3

/-- The header of the downlink frame at `p`, or zeros where the frame is too short to have one. -/
def DriverState.dlHeader (d : DriverState) (p : Ptr) : DlDataHeader :=
  (msgDecodeDlDataHeaderV5 dataHeaderLen (d.load4 p)).getD ⟨0, 0, 0, 0, 0, 0⟩

/-- The rates are packed into one octet, and unpacked. -/
theorem rates_packed (d : DriverState) (p : Ptr) :
    ((d.dlHeader p).codecSampleRate ||| (d.dlHeader p).sampleRate <<< 2) &&& 3 =
        (d.dlHeader p).codecSampleRate ∧
      (((d.dlHeader p).codecSampleRate ||| (d.dlHeader p).sampleRate <<< 2) >>> 2) &&& 3 =
        (d.dlHeader p).sampleRate := by
  have hpack (c s : BitVec 8) : (c &&& 3 ||| (s &&& 3) <<< 2) &&& 3 = c &&& 3 ∧
      ((c &&& 3 ||| (s &&& 3) <<< 2) >>> 2) &&& 3 = s &&& 3 := by
    constructor <;>
    · ext i hi
      interval_cases i <;> simp
  exact hpack _ _

/-! ### The call -/

/-- What is copied does not depend on the marks and the positions. -/
theorem d_copyDlFrame_modBuf (i : Fin dlSlots) (bd : Buffer dlSlots) (m : Machine)
    (f : BufState → BufState) : (copyDlFrame i bd (m.modBuf f)).d = (copyDlFrame i bd m).d := by
  unfold copyDlFrame
  by_cases h : m.bcstate.sampleLayout = sampleLayoutSwappedLe
  · rw [if_pos (show (m.modBuf f).bcstate.sampleLayout = sampleLayoutSwappedLe from h), if_pos h]
    rfl
  · rw [if_neg (show ¬ (m.modBuf f).bcstate.sampleLayout = sampleLayoutSwappedLe from h),
      if_neg h]
    rfl

section
variable {m : Machine} {i : Fin dlSlots}

/-- The buffer of a slot as the application gets it: it goes by the header in the buffer. -/
def given (m : Machine) (i : Fin dlSlots) : Buffer dlSlots :=
  { (m.buf.dlbufdesc i).bd with
    frameFlags := dataTypeValid.toNat
    spcFlags := (m.d.dlHeader (m.buf.dlbufdesc i).bd.data).spcFlags
    reserved0 := (m.d.dlHeader (m.buf.dlbufdesc i).bd.data).codecSampleRate |||
      (m.d.dlHeader (m.buf.dlbufdesc i).bd.data).sampleRate <<< 2 }

/-- After the slot has been chosen: the descriptor is the one that was given, and the memory is
that of the copy. -/
theorem acquire_exact (hv : ¬ m.buf.Invalid (.dl i)) :
    ((dlBufferAcquire.acquire true m i).2.buf.dlbufdesc i).bd = given m i ∧
      (dlBufferAcquire.acquire true m i).2.d = (copyDlFrame i (given m i) m).d := by
  have hv' : ¬ ((privBumpRxPtrAppl m).buf.dlbufdesc i).flags &&& bufInvalid ≠ 0 := hv
  -- The frame is copied after the descriptor has been written; the ramp test counts it after that.
  obtain ⟨f, hf, hm₂⟩ : ∃ f : BufState → BufState, ((f m.buf).dlbufdesc i).bd = given m i ∧
      ((dlBufferAcquire.acquire true m i).2 = copyDlFrame i (given m i) (m.modBuf f) ∨
        (dlBufferAcquire.acquire true m i).2 =
          (copyDlFrame i (given m i) (m.modBuf f)).modBc bcTestSequenceReceived) := by
    unfold dlBufferAcquire.acquire
    rw [if_neg hv', if_neg (by decide)]
    refine ⟨fun b => { b with
      rxPtrAppl := (privBumpRxPtrAppl m).buf.rxPtrAppl
      dlbufdesc := Function.update b.dlbufdesc i
        ⟨given m i, (m.buf.dlbufdesc i).flags ||| bufLocked⟩ },
      by dsimp only; rw [Function.update_self], ?_⟩
    dsimp only
    split
    · exact Or.inr rfl
    · exact Or.inl rfl
  rcases hm₂ with hm₂ | hm₂
  · rw [hm₂, buf_copyDlFrame]
    exact ⟨hf, d_copyDlFrame_modBuf _ _ _ _⟩
  · rw [hm₂, Machine.modBc_buf, buf_copyDlFrame]
    exact ⟨hf, d_copyDlFrame_modBuf _ _ _ _⟩

/-- A call that succeeds has at most moved the position before. -/
theorem dlBufferAcquire_of_ok (h : (dlBufferAcquire true m).1 = .ok i) :
    ∃ p, ¬ m.buf.Invalid (.dl i) ∧ dlBufferAcquire true m =
      dlBufferAcquire.acquire true (m.modBuf fun b => { b with rxPtrAppl := p }) i := by
  have hslot {m₁ : Machine} {j : Fin dlSlots}
      (h : (dlBufferAcquire.acquire true m₁ j).1 = .ok i) : ¬ m₁.buf.Invalid (.dl j) ∧ j = i := by
    have hres := dlBufferAcquire_acquire_result m₁ true j
    rw [h] at hres
    split at hres
    · cases hres
    · next hv => exact ⟨fun hi => hv (Or.inl hi), (Option.some.inj hres).symm⟩
  unfold dlBufferAcquire at h ⊢
  by_cases hp : m.buf.rxPtrAppl < 0
  · rw [if_pos hp] at h
    cases h
  · rw [if_neg hp] at h ⊢
    cases hs : privRxApplSlot m with
    | error e =>
      rw [hs] at h
      dsimp only at h ⊢
      -- After an overrun the application's position is set to the driver's, and the newest slot is
      -- given out.
      by_cases he : e = -epipe
      · rw [if_pos he] at h ⊢
        obtain ⟨hv, rfl⟩ := hslot h
        exact ⟨_, hv, rfl⟩
      · rw [if_neg he] at h
        cases h
    | ok j =>
      rw [hs] at h
      obtain ⟨hv, rfl⟩ := hslot h
      exact ⟨m.buf.rxPtrAppl, hv, rfl⟩

end

/-! ### The frame -/

/-- Where the driver has the frame of a downlink slot. -/
def Machine.driverSlot (m : Machine) (i : Fin dlSlots) : Ptr := .mmap (m.d.buf.rxOffsets i)

/-- Where the library takes the payload of a downlink frame from. -/
def Machine.dlSource (m : Machine) (i : Fin dlSlots) : Ptr :=
  if m.bcstate.sampleLayout = sampleLayoutSwappedLe then .mmap (m.d.rxOffsets i)
  else (m.buf.dlbufdesc i).bd.data

/-- The copy of a frame is defined: it is not made onto the frame itself.  The source copies with
`memcpy`, for which regions that overlap have no meaning. -/
def Machine.CopyDefined (m : Machine) (i : Fin dlSlots) : Prop :=
  m.bcstate.sampleLayout = sampleLayoutSwappedLe →
    ∀ a < (m.buf.dlbufdesc i).bd.count.toNat, ∀ b < (m.buf.dlbufdesc i).bd.count.toNat,
      (Ptr.mmap (m.d.rxOffsets i)).add a ≠ (m.buf.dlbufdesc i).bd.data.add b

/-- The octet of a payload of `pcount` octets that the application finds at `o`: whole words are
swapped. -/
def payloadOctet (sampleLayout pcount : ℤ) (o : ℕ) : ℕ :=
  if sampleLayout = sampleLayoutSwappedLe ∧ o < 4 * (pcount / 4).toNat then swappedOctet o else o

/-- The buffer of a slot, as it is in `m'`, describes the frame that the driver has there in `m`,
and contains it. -/
structure Describes (m m' : Machine) (i : Fin dlSlots) : Prop where
  frameFlags : (m'.buf.dlbufdesc i).bd.frameFlags = (m.d.dlHeader (m.driverSlot i)).dataType.toNat
  spcFlags : (m'.buf.dlbufdesc i).bd.spcFlags = (m.d.dlHeader (m.driverSlot i)).spcFlags
  sampleRate :
    bufferSampleRate (m'.buf.dlbufdesc i).bd = (m.d.dlHeader (m.driverSlot i)).sampleRate
  codecSampleRate : bufferCodecSampleRate (m'.buf.dlbufdesc i).bd =
    (m.d.dlHeader (m.driverSlot i)).codecSampleRate
  payload : ∀ o : ℕ, (o : ℤ) < (m'.buf.dlbufdesc i).bd.pcount →
    m'.d.load ((m'.buf.dlbufdesc i).bd.payload.add o) =
      m.d.load ((m.driverSlot i).add (dataHeaderLen +
        payloadOctet m.bcstate.sampleLayout (m'.buf.dlbufdesc i).bd.pcount o))

/-- What the descriptor and the memory of a slot must be like before the call, for the buffer it
gives out to describe the frame that the driver has put there. -/
structure Faithful (m : Machine) (i : Fin dlSlots) : Prop where
  dataType : (m.d.dlHeader (m.driverSlot i)).dataType = dataTypeValid
  /-- The header left in the buffer of the descriptor is as good as that of the frame. -/
  spcFlags : (m.d.dlHeader (m.buf.dlbufdesc i).bd.data).spcFlags =
    (m.d.dlHeader (m.driverSlot i)).spcFlags
  sampleRate : (m.d.dlHeader (m.buf.dlbufdesc i).bd.data).sampleRate =
    (m.d.dlHeader (m.driverSlot i)).sampleRate
  codecSampleRate : (m.d.dlHeader (m.buf.dlbufdesc i).bd.data).codecSampleRate =
    (m.d.dlHeader (m.driverSlot i)).codecSampleRate
  /-- The frame lies where the library takes it from. -/
  source : ∀ o : ℕ, (o : ℤ) < (m.buf.dlbufdesc i).bd.pcount →
    m.d.load ((m.dlSource i).add (dataHeaderLen + o)) =
      m.d.load ((m.driverSlot i).add (dataHeaderLen + o))

/-- In the driver's slot itself a frame need only be `VALID`. -/
theorem faithful_iff_of_straight {m : Machine} {i : Fin dlSlots}
    (hs : m.bcstate.sampleLayout ≠ sampleLayoutSwappedLe)
    (hd : (m.buf.dlbufdesc i).bd.data = m.driverSlot i) :
    Faithful m i ↔ (m.d.dlHeader (m.driverSlot i)).dataType = dataTypeValid := by
  refine ⟨Faithful.dataType, fun h => ⟨h, by rw [hd], by rw [hd], by rw [hd], ?_⟩⟩
  intro o _
  rw [Machine.dlSource, if_neg hs, hd]

theorem payloadOctet_payloadOctet (sampleLayout pcount : ℤ) (o : ℕ) :
    payloadOctet sampleLayout pcount (payloadOctet sampleLayout pcount o) = o := by
  unfold payloadOctet
  by_cases h : sampleLayout = sampleLayoutSwappedLe ∧ o < 4 * (pcount / 4).toNat
  · rw [if_pos h, if_pos ⟨h.1, swappedOctet_lt h.2⟩, swappedOctet_swappedOctet]
  · rw [if_neg h, if_neg h]

/-- No octet leaves the payload: swapping halfwords moves octets within their word. -/
theorem payloadOctet_lt {sampleLayout pcount : ℤ} {o : ℕ} (h : (o : ℤ) < pcount) :
    (payloadOctet sampleLayout pcount o : ℤ) < pcount := by
  unfold payloadOctet
  split
  · next hw =>
    have hlt := swappedOctet_lt hw.2
    omega
  · exact h

section
variable {m : Machine} {i : Fin dlSlots}

/-- The payload in the buffer is that of the source, whatever the buffer held before. -/
theorem load_payload (hf : m.buf.Formed) (hv : ¬ m.buf.Invalid (.dl i)) (hc : m.CopyDefined i)
    {o : ℕ} (ho : (o : ℤ) < (given m i).pcount) :
    (copyDlFrame i (given m i) m).d.load ((given m i).payload.add o) =
      m.d.load ((m.dlSource i).add
        (dataHeaderLen + payloadOctet m.bcstate.sampleLayout (given m i).pcount o)) := by
  obtain ⟨p, n, hp, hlay⟩ := hf (.dl i) hv
  have hdata : (given m i).data = p := congrArg Layout.data hlay
  have hcount : (given m i).count = n := congrArg Layout.count hlay
  have hpcount : (given m i).pcount = n - dataHeaderLen := congrArg Layout.pcount hlay
  have hpayload : (given m i).payload = p.add dataHeaderLen := congrArg Layout.payload hlay
  rw [hpcount] at ho
  unfold copyDlFrame Machine.dlSource payloadOctet
  rw [hpcount, hpayload]
  by_cases hs : m.bcstate.sampleLayout = sampleLayoutSwappedLe
  · have hpos : (n : ℤ) - dataHeaderLen > 0 := by omega
    have hsep : ∀ a < n, ∀ b < n, (Ptr.mmap (m.d.rxOffsets i)).add a ≠ p.add b := by
      have hsep := hc hs
      rwa [show (m.buf.dlbufdesc i).bd.count = n from hcount,
        show (m.buf.dlbufdesc i).bd.data = p from hdata] at hsep
    -- an octet of the buffer, before the halves are exchanged
    have hcopy {a : ℕ} (ha : dataHeaderLen + a < n) :
        (m.d.memcpy p (.mmap (m.d.rxOffsets i)) n).load ((p.add dataHeaderLen).add a) =
          m.d.load ((Ptr.mmap (m.d.rxOffsets i)).add (dataHeaderLen + a)) := by
      rw [Ptr.add_add]
      exact DriverState.load_memcpy m.d hp hsep ha
    rw [if_pos hs, if_pos hs]
    simp only [Machine.modD, hdata, hcount, Int.toNat_natCast, if_pos hpos, hs, true_and]
    by_cases hw : o < 4 * (((n : ℤ) - dataHeaderLen) / 4).toNat
    · have hlt := swappedOctet_lt hw
      rw [if_pos hw, load_privInplaceHalfwordSwap _ (Ptr.add_ne_null hp _) hw]
      exact hcopy (by omega)
    · rw [if_neg hw, load_privInplaceHalfwordSwap_outside]
      · exact hcopy (by omega)
      · intro a ha he
        have hoa := (Ptr.add_inj (Ptr.add_ne_null hp _)).mp he
        omega
  · rw [if_neg hs, if_neg hs, if_neg fun h => hs h.1, Ptr.add_add,
      show (m.buf.dlbufdesc i).bd.data = p from hdata]

/-- A call that gives out a buffer, in one piece: the descriptor, and each octet of its payload as
it lay in the slot of the driver. -/
theorem acquired_exact (hf : m.buf.Formed) (k : Kernel) {buf : Bool}
    (h : (Op.dlBufferAcquire buf).acquired m = some (.dl i)) (hc : m.CopyDefined i) :
    ((nokiamodem.next m (k, .dlBufferAcquire buf)).1.buf.dlbufdesc i).bd = given m i ∧
      ∀ o : ℕ, (o : ℤ) < (given m i).pcount →
        (nokiamodem.next m (k, .dlBufferAcquire buf)).1.d.load ((given m i).payload.add o) =
          m.d.load ((m.dlSource i).add
            (dataHeaderLen + payloadOctet m.bcstate.sampleLayout (given m i).pcount o)) := by
  obtain ⟨rfl, -⟩ := (acquired_dl_iff m buf (.dl i)).mp h
  have hok : (dlBufferAcquire true m.begin).1 = .ok i := by
    have hres : (dlBufferAcquire true m.begin).1.toOption.map Slot.dl = some (.dl i) := h
    cases hr : (dlBufferAcquire true m.begin).1 with
    | error e =>
      rw [hr] at hres
      cases hres
    | ok j =>
      rw [hr] at hres
      cases hres
      rfl
  obtain ⟨p, hv, heq⟩ := dlBufferAcquire_of_ok hok
  -- neither the position nor the log has a part in what is given out
  let m₁ : Machine := m.begin.modBuf fun b => { b with rxPtrAppl := p }
  obtain ⟨hbd, hd⟩ := acquire_exact (m := m₁) (i := i) hv
  rw [← heq] at hbd hd
  refine ⟨hbd, fun o ho => ?_⟩
  rw [show (nokiamodem.next m (k, .dlBufferAcquire true)).1.d = _ from hd]
  exact load_payload (m := m₁) (i := i) hf hv hc ho

/-- **The buffer that is given out describes the frame** in the driver's slot, and contains its
payload, if and only if the frame is `VALID`, and the header in the buffer before the call and the
octets the library copies are as good as those of the frame. -/
theorem acquired_describes_iff (hm : nokiamodem.Reachable m) (k : Kernel) {buf : Bool}
    (h : (Op.dlBufferAcquire buf).acquired m = some (.dl i)) (hc : m.CopyDefined i) :
    Describes m (nokiamodem.next m (k, .dlBufferAcquire buf)).1 i ↔ Faithful m i := by
  obtain ⟨hbd, hload⟩ := acquired_exact (.reachable hm) k h hc
  obtain ⟨hcodec, hsample⟩ := rates_packed m.d (m.buf.dlbufdesc i).bd.data
  constructor
  · rintro ⟨hflags, hspc, hrate, hcrate, hpay⟩
    rw [hbd] at hflags hspc hrate hcrate hpay
    refine ⟨?_, hspc, hsample.symm.trans hrate, hcodec.symm.trans hcrate, ?_⟩
    · have htype : dataTypeValid.toNat = (m.d.dlHeader (m.driverSlot i)).dataType.toNat :=
        Int.ofNat.inj hflags
      exact (BitVec.eq_of_toNat_eq htype).symm
    · intro o ho
      -- the octet that comes to `o` in the buffer
      obtain ⟨o', ho', rfl⟩ : ∃ o' : ℕ, (o' : ℤ) < (given m i).pcount ∧
          payloadOctet m.bcstate.sampleLayout (given m i).pcount o' = o :=
        ⟨_, payloadOctet_lt ho, payloadOctet_payloadOctet _ _ o⟩
      exact (hload o' ho').symm.trans (hpay o' ho')
  · intro hf
    refine ⟨?_, ?_, ?_, ?_, ?_⟩
    · rw [hbd, hf.dataType]
      rfl
    · rw [hbd]
      exact hf.spcFlags
    · rw [hbd]
      exact hsample.trans hf.sampleRate
    · rw [hbd]
      exact hcodec.trans hf.codecSampleRate
    · intro o ho
      rw [hbd] at ho ⊢
      exact (hload o ho).trans (hf.source _ (payloadOctet_lt ho))

end

/-! ### A frame for the swap buffer -/

/-- An instance whose copy of the table is that of the blank area. -/
def Machine.tabled : Machine :=
  cmtspeechOpen .blank
    { Machine.zeroed with d := { Machine.zeroed.d with rxOffsets := MmapArea.blank.rxOffsets } }

/-- A frame in each slot, with `octet` for the last octet of its header. -/
def MmapArea.framed (octet : BitVec 8) : MmapArea :=
  { MmapArea.blank with bytes := fun o => if o % 1024 = 0 then octet else 0 }

/-- The modem wants swapped samples, asks for a stream, and repeats its `SSI_CONFIG_RESP`; a
`VALID` frame with flags comes. -/
def swappedFrameRun : List Step :=
  [(.accepting, .stateChangeCallStatus true), (.accepting, .recv (msgEncodeSsiConfigResp 1 0)),
    (.accepting, .recv (speechConfigReqMsg true)),
    (.accepting, .recv (msgEncodeSsiConfigResp 1 0)), (.accepting, .driver (.framed 0xc2)),
    (.accepting, .recv (privMsgEncodeDriverMessage csRxDataReceived 0))]

theorem init_tabled : nokiamodem.init Machine.tabled := ⟨_, _, rfl⟩

/-- The frame in the swap buffer, as an instance: it is described if and only if the driver's is
faithful. -/
theorem acquired_describes_swapped :
    Describes (nokiamodem.exec Machine.tabled swappedFrameRun)
        (nokiamodem.next (nokiamodem.exec Machine.tabled swappedFrameRun)
          (.accepting, .dlBufferAcquire true)).1 0 ↔
      Faithful (nokiamodem.exec Machine.tabled swappedFrameRun) 0 := by
  refine acquired_describes_iff ⟨_, _, init_tabled, rfl⟩ .accepting (by decide) ?_
  intro _ a _ b _
  have hdata : ((nokiamodem.exec Machine.tabled swappedFrameRun).buf.dlbufdesc 0).bd.data =
      .dlswap 0 := by decide
  rw [hdata]
  exact Ptr.noConfusion

/-- The frame without speech that comes in a call with straight samples. -/
def straightFrameRun : List Step :=
  [(.accepting, .stateChangeCallStatus true), (.accepting, .recv (speechConfigReqMsg true)),
    (.accepting, .driver (.framed 0)),
    (.accepting, .recv (privMsgEncodeDriverMessage csRxDataReceived 0))]

/-- From the swap buffer the flags of the frame before are reported, and a frame without speech is
reported as `VALID` in either layout. -/
theorem not_describes_framed :
    (nokiamodem.Reachable (nokiamodem.exec Machine.tabled swappedFrameRun) ∧
        (Op.dlBufferAcquire true).acquired (nokiamodem.exec Machine.tabled swappedFrameRun) =
          some (.dl 0) ∧
        ¬ Describes (nokiamodem.exec Machine.tabled swappedFrameRun)
          (nokiamodem.next (nokiamodem.exec Machine.tabled swappedFrameRun)
            (.accepting, .dlBufferAcquire true)).1 0) ∧
      nokiamodem.Reachable (nokiamodem.exec Machine.fresh straightFrameRun) ∧
        (Op.dlBufferAcquire true).acquired (nokiamodem.exec Machine.fresh straightFrameRun) =
          some (.dl 0) ∧
        ¬ Describes (nokiamodem.exec Machine.fresh straightFrameRun)
          (nokiamodem.next (nokiamodem.exec Machine.fresh straightFrameRun)
            (.accepting, .dlBufferAcquire true)).1 0 := by
  refine ⟨⟨⟨_, _, init_tabled, rfl⟩, by decide, fun h => ?_⟩, ⟨_, _, init_fresh, rfl⟩, by decide,
    fun h => ?_⟩
  · have hspc := h.spcFlags
    exact absurd hspc (by decide)
  · have hflags := h.frameFlags
    exact absurd hflags (by decide)

end CmtSpeech
