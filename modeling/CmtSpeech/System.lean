import CmtSpeech.Lib.Lts
import CmtSpeech.Nokiamodem

/-!
# Runs of the backend

One step is one operation: a call of the application, a change the driver makes to the
mapped area, or the application filling a buffer.  Inbound words come in through
`cmtspeech_check_pending`.  The input of a step carries the kernel's answers to the
system calls the operation makes, so every run is a list of inputs.

* `Op`, `Op.run` — the operations.
* `nokiamodem` — the transition system.
* `Kernel.WritesSucceed`, `Kernel.IoctlsSucceed` — steps without failing system calls.
* `Machine.fresh`, `Kernel.accepting` — a fixed instance and a driver that accepts
  everything, for concrete runs.
-/

namespace CmtSpeech

/-- The operations of a run: the calls of the application with their arguments, what the
application writes to a buffer, and what the driver does to the mapped area by itself. -/
inductive Op where
  | checkPending (flags : Bool) (word : Option Cmd)
  | readEvent
  | setWbPreference (enabled : Bool)
  | stateChangeCallStatus (state : Bool)
  | stateChangeCallConnect (state : Bool)
  | stateChangeError
  | sendTimingRequest
  | sendSsiConfigRequest (active : Bool)
  | testDataRampReq (rampstart ramplen : BitVec 8)
  | dlBufferAcquire (buf : Bool)
  | dlBufferRelease (i : Fin dlSlots)
  | ulBufferAcquire (buf : Bool)
  | ulBufferRelease (buf : Option (Fin ulSlots))
  /-- The application sets the frame flags and payload of a buffer. -/
  | fillBuffer (slot : Slot) (frameFlags : ℤ) (payload : ℕ → BitVec 8)
  /-- The driver changes the mapped area. -/
  | driver (area : MmapArea)

/-- A word arrives: `cmtspeech_check_pending` with data to read, and the word there. -/
abbrev Op.recv (word : Cmd) : Op := .checkPending true (some word)

/-- The application writes `n` octets from `p` on, before it gives the buffer back. -/
def fillPayload (p : Ptr) (payload : ℕ → BitVec 8) : ℕ → DriverState → DriverState
  | 0, d => d
  | n + 1, d => (fillPayload p payload n d).store (p.add n) (payload n)

/-- What the application may change in a buffer: the flags of the frame, and its payload. -/
def fillBuffer (slot : Slot) (frameFlags : ℤ) (payload : ℕ → BitVec 8) (m : Machine) : Machine :=
  match slot with
  | .ul i =>
    let desc := m.buf.ulbufdesc i
    let filled := { desc with bd := { desc.bd with frameFlags := frameFlags } }
    (m.modBuf fun b => { b with ulbufdesc := Function.update b.ulbufdesc i filled }).modD
      (fillPayload desc.bd.payload payload desc.bd.pcount.toNat)
  | .dl i =>
    let desc := m.buf.dlbufdesc i
    let filled := { desc with bd := { desc.bd with frameFlags := frameFlags } }
    (m.modBuf fun b => { b with dlbufdesc := Function.update b.dlbufdesc i filled }).modD
      (fillPayload desc.bd.payload payload desc.bd.pcount.toNat)

/-- The state after an operation, whatever its result; what the call did is in the trace. -/
def Op.run (k : Kernel) (m : Machine) : Op → Machine
  | .checkPending flags word => (CmtSpeech.checkPending k flags word m).2.2
  | .readEvent => (CmtSpeech.readEvent m).2
  | .setWbPreference enabled => (CmtSpeech.setWbPreference enabled m).2
  | .stateChangeCallStatus state => (bcStateChangeCallStatus k state m).2
  | .stateChangeCallConnect state => (bcStateChangeCallConnect state m).2
  | .stateChangeError => (CmtSpeech.stateChangeError k m).2
  | .sendTimingRequest => (CmtSpeech.sendTimingRequest k (bcPostCommand k) m).2
  | .sendSsiConfigRequest active => (CmtSpeech.sendSsiConfigRequest k (bcPostCommand k) active m).2
  | .testDataRampReq rampstart ramplen => (CmtSpeech.testDataRampReq k rampstart ramplen m).2
  | .dlBufferAcquire buf => (CmtSpeech.dlBufferAcquire buf m).2
  | .dlBufferRelease i => (CmtSpeech.dlBufferRelease k i m).2
  | .ulBufferAcquire buf => (CmtSpeech.ulBufferAcquire buf m).2
  | .ulBufferRelease buf => (CmtSpeech.ulBufferRelease k buf m).2
  | .fillBuffer slot frameFlags payload => CmtSpeech.fillBuffer slot frameFlags payload m
  | .driver area => m.modD fun d => { d with buf := area }

/-- The state at the start of an operation: no system call made, nothing done. -/
def Machine.begin (m : Machine) : Machine := { m with tick := 0, out := [] }

/-- A step of the backend: an operation, with a kernel that decides about each of its system
calls. -/
abbrev Step := Kernel × Op

/-- The backend as a transition system, from `cmtspeech_open` on.  An initial state is any
instance just opened, whatever the allocated memory held. -/
def nokiamodem : Lts Machine Step Obs where
  init m := ∃ area old, m = cmtspeechOpen area old
  next m i := (i.2.run i.1 m.begin, (i.2.run i.1 m.begin).out)

/-- Every write the kernel may be asked for in a step is complete, those of frames included. -/
def Kernel.WritesSucceed (k : Kernel) : Prop := ∀ n, (k.write n).res = ctrlLen

/-- Every `ioctl` the kernel may be asked for in a step succeeds: the line, the version of the
driver and the layout of the buffers. -/
def Kernel.IoctlsSucceed (k : Kernel) : Prop :=
  (∀ n, k.setWakeline n = 0) ∧ (∀ n, (k.getIfVersion n).isSome) ∧ ∀ n, k.configBufs n = 0

/-! ### A fixed instance -/

/-- A mapped area full of zeros, with one slot after the other. -/
def MmapArea.blank : MmapArea where
  rxOffsets i := 1024 * (i + 1)
  txOffsets i := 1024 * (i + 4)
  rxPtr := 0
  rxPtrBoundary := 3
  bytes _ := 0
  timespec _ := ⟨0, 0⟩

/-- A kernel for which every call succeeds, which most of the runs are made with. -/
def Kernel.accepting : Kernel where
  write _ := ⟨ctrlLen, 0⟩
  setWakeline _ := 0
  getIfVersion _ := some 1
  configBufs _ := 0
  configArea _ := .blank

/-- A kernel that writes nothing: every write fails with `EIO`, and the other calls succeed. -/
def Kernel.unwritable : Kernel := { Kernel.accepting with write := fun _ => ⟨-1, eio⟩ }

/-- Zeroed memory, where an instance may come to lie when it is allocated. -/
def Machine.zeroed : Machine where
  d :=
    { wakelineUsers := 0, rollingRxPtr := false, buf := .blank, dlswapbuf := fun _ => 0
      evbuf := [], rxOffsets := fun _ => 0, txOffsets := fun _ => 0, tstampRxCtrlOffset := 0 }
  bcstate :=
    { callServerActive := false, callConnected := false, protoState := .invalid
      privState := .inSync, sampleLayout := 0, ioErrors := 0, confProtoVersion := 0 }
  buf := privResetBufStateToDisconnected
  ulCounter := 0
  tick := 0
  out := []

/-- An instance just opened, in memory that was zero and on a driver area that is blank. -/
def Machine.fresh : Machine := cmtspeechOpen .blank .zeroed

/-- A `SPEECH_CONFIG_REQ` as the modem sends it. -/
def speechConfigReqMsg (speechDataStream : Bool) : Cmd :=
  msgEncodeSpeechConfigReq
    { speechDataStream := if speechDataStream then 1 else 0, callUserConnectingInd := 0
      codecInfo := 0, cellularInfo := 0, sampleRate := sampleRate8khz, dataFormat := 0 }

theorem init_fresh : nokiamodem.init Machine.fresh := ⟨_, _, rfl⟩

/-- A call in which speech flows both ways, with the application holding an uplink buffer. -/
def heldBufferRun : List Step :=
  [(.accepting, .stateChangeCallStatus true), (.accepting, .recv (msgEncodeSsiConfigResp 1 0)),
    (.accepting, .recv (speechConfigReqMsg true)),
    (.accepting, .recv (msgEncodeTimingConfigNtf 0 0)), (.accepting, .ulBufferAcquire true)]

theorem accepting_writesSucceed : Kernel.accepting.WritesSucceed := fun _ => rfl

theorem accepting_ioctlsSucceed : Kernel.accepting.IoctlsSucceed :=
  ⟨fun _ => rfl, fun _ => rfl, fun _ => rfl⟩

section
variable (m : Machine)

@[simp] theorem begin_d : m.begin.d = m.d := rfl
@[simp] theorem begin_bcstate : m.begin.bcstate = m.bcstate := rfl
@[simp] theorem begin_buf : m.begin.buf = m.buf := rfl
@[simp] theorem begin_out : m.begin.out = [] := rfl
@[simp] theorem begin_tick : m.begin.tick = 0 := rfl

end

/-! ### What writing to memory leaves alone -/

/-- `d'` is `d` with other octets in the frames and the copy of them.  So it is after a frame is
written or copied, which moves neither an offset nor a pointer. -/
def OnlyOctets (d d' : DriverState) : Prop :=
  ∃ bytes swap, d' = { d with buf := { d.buf with bytes := bytes }, dlswapbuf := swap }

theorem OnlyOctets.refl (d : DriverState) : OnlyOctets d d := ⟨_, _, rfl⟩

theorem OnlyOctets.trans {d d' d'' : DriverState} (h : OnlyOctets d d')
    (h' : OnlyOctets d' d'') : OnlyOctets d d'' := by
  obtain ⟨bytes, swap, rfl⟩ := h
  obtain ⟨bytes', swap', rfl⟩ := h'
  exact ⟨bytes', swap', rfl⟩

/-- `d'` is `d` after a change of the frames and the copy of them, as far as anything depends on
it. -/
structure SameButMemory (d d' : DriverState) : Prop where
  wakelineUsers : d'.wakelineUsers = d.wakelineUsers
  evbuf : d'.evbuf = d.evbuf
  rxOffsets : d'.rxOffsets = d.rxOffsets

theorem OnlyOctets.same {d d' : DriverState} (h : OnlyOctets d d') : SameButMemory d d' := by
  obtain ⟨bytes, swap, rfl⟩ := h
  exact ⟨rfl, rfl, rfl⟩

section
variable (d : DriverState) (p q : Ptr)

theorem onlyOctets_store (b : BitVec 8) : OnlyOctets d (d.store p b) := by
  cases p <;> exact ⟨_, _, rfl⟩

theorem onlyOctets_store4 (c : Cmd) : OnlyOctets d (d.store4 p c) := by
  unfold DriverState.store4
  refine .trans ?_ (onlyOctets_store _ _ _)
  refine .trans ?_ (onlyOctets_store _ _ _)
  exact (onlyOctets_store _ _ _).trans (onlyOctets_store _ _ _)

theorem onlyOctets_memcpy (n : ℕ) : OnlyOctets d (d.memcpy p q n) := by
  induction n with
  | zero => exact .refl d
  | succ n ih => exact ih.trans (onlyOctets_store _ _ _)

theorem onlyOctets_generateRamp (b : BitVec 8) (n : ℕ) :
    OnlyOctets d (generateRamp p b n d) := by
  induction n with
  | zero => exact .refl d
  | succ n ih => exact ih.trans (onlyOctets_store _ _ _)

theorem onlyOctets_fillPayload (payload : ℕ → BitVec 8) (n : ℕ) :
    OnlyOctets d (fillPayload p payload n d) := by
  induction n with
  | zero => exact .refl d
  | succ n ih => exact ih.trans (onlyOctets_store _ _ _)

theorem onlyOctets_inplaceHalfwordSwapLoop (n : ℕ) :
    OnlyOctets d (inplaceHalfwordSwapLoop n p d) := by
  induction n generalizing p d with
  | zero => exact .refl d
  | succ n ih => exact (onlyOctets_store4 _ _ _).trans (ih _ _)

theorem onlyOctets_privInplaceHalfwordSwap (n : ℤ) :
    OnlyOctets d (privInplaceHalfwordSwap p n d) := onlyOctets_inplaceHalfwordSwapLoop d p _

/-- Copying a frame changes the memory alone, and of it the octets that the application reads. -/
theorem copyDlFrame_octets (slot : Fin dlSlots) (bd : Buffer dlSlots) (m : Machine) :
    ∃ d, OnlyOctets m.d d ∧ copyDlFrame slot bd m = m.modD fun _ => d := by
  unfold copyDlFrame
  split
  · refine ⟨_, ?_, rfl⟩
    have hcopy := onlyOctets_memcpy m.d bd.data (.mmap (m.d.rxOffsets slot)) bd.count.toNat
    split
    · exact hcopy.trans (onlyOctets_privInplaceHalfwordSwap _ _ _)
    · exact hcopy
  · exact ⟨m.d, .refl m.d, rfl⟩

theorem copyDlFrame_eq (slot : Fin dlSlots) (bd : Buffer dlSlots) (m : Machine) :
    ∃ d, SameButMemory m.d d ∧ copyDlFrame slot bd m = m.modD fun _ => d := by
  obtain ⟨d, hd, heq⟩ := copyDlFrame_octets slot bd m
  exact ⟨d, hd.same, heq⟩

end

end CmtSpeech
