import CmtSpeech.BackendCommon
import Mathlib.Logic.Function.Basic

/-!
# The Nokia modem backend

The upper half of `cmtspeech_nokiamodem.c`: replying to `SPEECH_CONFIG_REQ`, handling
inbound words, and the calls of the application.

* `privSetupAndSendSpeechConfigReply`, `privHandleSpeechConfig`,
  `privDrvbufLayoutChangeBufferReleased` — reconfiguration and its deferral while the
  application holds buffers.
* `handleInboundControlMessage` — one word from the driver.
* `dlBufferAcquire`, `dlBufferRelease`, `ulBufferAcquire`, `ulBufferRelease`
* `cmtspeechOpen` — the initial state.
-/

namespace CmtSpeech

/-! ### Memory -/

namespace DriverState

def load (d : DriverState) : Ptr → BitVec 8
  | .null => 0
  | .mmap off => d.buf.bytes off
  | .dlswap off => d.dlswapbuf off

def store (d : DriverState) (p : Ptr) (b : BitVec 8) : DriverState :=
  match p with
  | .null => d
  | .mmap off => { d with buf := { d.buf with bytes := Function.update d.buf.bytes off b } }
  | .dlswap off => { d with dlswapbuf := Function.update d.dlswapbuf off b }

/-- Four octets; `BYTE0` is the one at the highest address. -/
def load4 (d : DriverState) (p : Ptr) : Cmd where
  byte0 := d.load (p.add 3)
  byte1 := d.load (p.add 2)
  byte2 := d.load (p.add 1)
  byte3 := d.load p

def store4 (d : DriverState) (p : Ptr) (c : Cmd) : DriverState :=
  (((d.store p c.byte3).store (p.add 1) c.byte2).store (p.add 2) c.byte1).store (p.add 3) c.byte0

/-- `memcpy` of `n` octets, from the first to the last, between areas that may be one. -/
def memcpy (dst src : Ptr) : ℕ → DriverState → DriverState
  | 0, d => d
  | n + 1, d =>
    let d := memcpy dst src n d
    d.store (dst.add n) (d.load (src.add n))

end DriverState

/-- The octets of a 32-bit word, the high one first: the inverse of `Cmd.word`. -/
def Cmd.ofWord (w : BitVec 32) : Cmd where
  byte0 := w.extractLsb' 24 8
  byte1 := w.extractLsb' 16 8
  byte2 := w.extractLsb' 8 8
  byte3 := w.extractLsb' 0 8

/-- The loop of `priv_inplace_halfword_swap` over the words from `wbuf`. -/
def inplaceHalfwordSwapLoop : ℕ → Ptr → DriverState → DriverState
  | 0, _, d => d
  | i + 1, wbuf, d =>
    let tmp := (d.load4 wbuf).word
    inplaceHalfwordSwapLoop i (wbuf.add 4)
      (d.store4 wbuf (Cmd.ofWord (tmp <<< 16 ||| tmp >>> 16)))

/-- `priv_inplace_halfword_swap`: as many words as fit into `n` octets; the rest stays as it is. -/
def privInplaceHalfwordSwap (buf : Ptr) (n : ℤ) (d : DriverState) : DriverState :=
  inplaceHalfwordSwapLoop (n / 4).toNat buf d

/-! ### Reconfiguration -/

/-- Set or clear marks of one descriptor, of the uplink or of the downlink. -/
def BufState.mapFlags (b : BufState) (slot : Slot) (f : BitVec 4 → BitVec 4) : BufState :=
  match slot with
  | .ul i =>
    let desc := { b.ulbufdesc i with flags := f (b.ulbufdesc i).flags }
    { b with ulbufdesc := Function.update b.ulbufdesc i desc }
  | .dl i =>
    let desc := { b.dlbufdesc i with flags := f (b.dlbufdesc i).flags }
    { b with dlbufdesc := Function.update b.dlbufdesc i desc }

@[simp] theorem BufState.mapFlags_ulErrors (b : BufState) (slot : Slot)
    (f : BitVec 4 → BitVec 4) : (b.mapFlags slot f).ulErrors = b.ulErrors := by
  cases slot <;> rfl

/-- `priv_setup_and_send_speech_config_reply`: the layout is set up first, and the answer says how
that went. -/
def privSetupAndSendSpeechConfigReply (k : Kernel) (m : Machine) : ℤ × Machine :=
  let c := privSetupDriverBufconfig k (m.modBuf fun b => { b with speechConfigRespPend := false })
  let w := privWrite k (msgEncodeSpeechConfigResp (if c.1 = 0 then 0 else 1)) c.2
  let res := if w.1 = ctrlLen then 0 else -1
  if c.1 ≠ 0 then
    -- we cannot properly recover from a local error
    (res, (privSendReset k (w.2.modBuf privInvalidateBufferSlots)).2)
  else (res, w.2)

/-- `priv_drvbuf_layout_change_buffer_released` -/
def privDrvbufLayoutChangeBufferReleased (k : Kernel) (slot : Slot) (m : Machine) : Machine :=
  let m := m.modBuf fun b => b.mapFlags slot (· &&& ~~~bufLocked)
  if privLockedBufdescs m.buf = 0 then
    let r := privSetupAndSendSpeechConfigReply k m
    if r.1 ≠ 0 then r.2.modBuf privInvalidateBufferSlots else r.2
  else m

/-- The slot size `priv_handle_speech_config` derives from a request: 0 for a call that
ends and for a sample rate it does not know. -/
def speechConfigSlotSize (req : SpeechConfigReq) : ℕ :=
  if req.speechDataStream ≠ 0 then
    if req.sampleRate = sampleRate8khz then 160 * pcmSampleSize + dataHeaderLen
    else if req.sampleRate = sampleRate16khz then 320 * pcmSampleSize + dataHeaderLen
    else 0
  else 0

/-- `priv_handle_speech_config`: the format of the frames is kept, and the answer put off while a
buffer is held. -/
def privHandleSpeechConfig (k : Kernel) (req : SpeechConfigReq) (m : Machine) : Machine :=
  let m := m.modBuf fun b =>
    { b with
      confSampleRate := if req.speechDataStream ≠ 0 then req.sampleRate else b.confSampleRate
      confDataLength := if req.speechDataStream ≠ 0 then dataLength20ms else b.confDataLength
      slotSize := speechConfigSlotSize req }
  if privLockedBufdescs m.buf = 0 then (privSetupAndSendSpeechConfigReply k m).2
  else m.modBuf fun b => privInvalidateBufferSlots { b with speechConfigRespPend := true }

/-! ### Resets and SSI configuration -/

/-- `priv_handle_reset_response`: our reset is over, and so is the need of the wakeline for it. -/
def privHandleResetResponse (k : Kernel) (m : Machine) : Machine :=
  (privReleaseWakeline k wakelineReset m).2

/-- `priv_initialize_after_peer_reset`: the data path, the protocol state and the wakeline start
anew. -/
def privInitializeAfterPeerReset (k : Kernel) (m : Machine) : Machine :=
  let m := (privSetupDriverBufconfig k (m.modBuf fun b => { b with slotSize := 0 })).2
  privResetWakelineState k (m.modBc BcState.privResetStateToDisconnected)

/-- `priv_handle_reset_conn_req`: the answer is sent, and everything starts anew whether it was
written or not. -/
def privHandleResetConnReq (k : Kernel) (m : Machine) : ℤ × Machine :=
  let w := privWrite k msgEncodeResetConnResp m
  (if w.1 = ctrlLen then 0 else -1, privInitializeAfterPeerReset k w.2)

/-- `priv_handle_ssi_config_resp`: the wakeline is let go after a disconnection, and otherwise the
downlink descriptors are made anew for the layout. -/
def privHandleSsiConfigResp (k : Kernel) (m : Machine) : Machine :=
  if m.bcstate.protoState = .disconnected ∧ m.bcstate.privState ≠ .connecting then
    (privReleaseWakeline k wakelineCall m).2
  else if m.buf.slotSize > 0 then privUpdateDlBufferDescriptors m
  else m

/-! ### The test ramp -/

abbrev csError : ℕ := 1
abbrev csRxDataReceived : ℕ := 2
abbrev csTxDataReady : ℕ := 3

/-- `priv_msg_encode_driver_message`: a word to the driver, in a domain that never reaches the
modem. -/
def privMsgEncodeDriverMessage (type : ℕ) (param : BitVec 8) : Cmd where
  byte0 := headOctet type domainInternal
  byte1 := 0
  byte2 := 0
  byte3 := param

/-- `priv_init_bufconfig_for_test_ramp_ping`: the slots are laid out for the ramp, if they are not
yet. -/
def privInitBufconfigForTestRampPing (k : Kernel) (ramplen : BitVec 8) (m : Machine) :
    ℤ × Machine :=
  let newSlotSize := dataHeaderLen + ramplen.toNat * 4
  if m.buf.slotSize ≠ newSlotSize then
    privSetupDriverBufconfig k (m.modBuf fun b => { b with slotSize := newSlotSize })
  else (0, m)

/-- The ramp of `priv_handle_test_ramp_ping`: `n` octets from `slotbuf`. -/
def generateRamp (slotbuf : Ptr) (rampstart : BitVec 8) : ℕ → DriverState → DriverState
  | 0, d => d
  | n + 1, d =>
    (generateRamp slotbuf rampstart n d).store (slotbuf.add n) (rampstart + BitVec.ofNat 8 n)

/-- `priv_handle_test_ramp_ping`: the ramp is written into the first uplink slot and sent back. -/
def privHandleTestRampPing (k : Kernel) (cmd : Cmd) (m : Machine) : ℤ × Machine :=
  let slotbuf := Ptr.mmap (m.d.txOffsets 0)
  let p := msgDecodeTestRampPing cmd
  let m := (privAcquireWakeline k wakelineTestRampPing m).2
  -- an uplink header with some bits overridden
  let m := m.modD fun d =>
    d.store4 slotbuf
      (((msgEncodeUlDataHeader 4 ⟨0xffff, dataLengthNone, sampleRateNone, dataTypeInvalid⟩).map
        fun h => { h with byte1 := p.ramplen, byte2 := 0x80 }).getD (d.load4 slotbuf))
  let c := privInitBufconfigForTestRampPing k p.ramplen m
  if c.1 < 0 then c
  else
    let m := c.2.modD (generateRamp (slotbuf.add 4) p.rampstart (p.ramplen.toNat * 4))
    let w := privWrite k (privMsgEncodeDriverMessage csTxDataReady 0) m
    if w.1 = ctrlLen then (0, w.2) else (-1, w.2)

/-! ### Downlink positions

The positions are `uint32_t` in the mapped area and `int` in the instance; the
differences are computed unsigned. -/

/-- `priv_rx_hw_delay`: from the application to where the driver writes next, by the shared
counter. -/
def privRxHwDelay (m : Machine) : ℤ :=
  ((m.d.buf.rxPtrBoundary + m.d.buf.rxPtr - BitVec.ofInt 32 m.buf.rxPtrAppl) %
    m.d.buf.rxPtrBoundary).toInt

/-- `priv_rx_ptr_avail`: from the application to the last frame that was notified. -/
def privRxPtrAvail (m : Machine) : BitVec 32 :=
  (m.d.buf.rxPtrBoundary + BitVec.ofInt 32 m.buf.rxPtrHw - BitVec.ofInt 32 m.buf.rxPtrAppl) %
    m.d.buf.rxPtrBoundary

/-- The downlink slot of a position in the stream of frames. -/
def dlSlotOf (ptr : ℤ) : Fin dlSlots := Fin.ofNat dlSlots ptr.toNat

/-- `priv_rx_appl_slot`: the slot, or the negative error code. -/
def privRxApplSlot (m : Machine) : Except ℤ (Fin dlSlots) :=
  if m.d.rollingRxPtr then
    if privRxPtrAvail m = m.d.buf.rxPtrBoundary - 1 then .error (-enodata)
    else if privRxHwDelay m ≥ dlSlots then .error (-epipe)
    else .ok (dlSlotOf m.buf.rxPtrAppl)
  else .ok (dlSlotOf m.buf.rxPtrAppl)

/-- `priv_bump_rx_ptr_appl`: one frame on, around the boundary or around the slots. -/
def privBumpRxPtrAppl (m : Machine) : Machine :=
  m.modBuf fun b =>
    { b with
      rxPtrAppl :=
        if m.d.rollingRxPtr then
          (BitVec.ofInt 32 (b.rxPtrAppl + 1) % m.d.buf.rxPtrBoundary).toInt
        else (b.rxPtrAppl + 1) % dlSlots }

/-! ### Inbound words -/

abbrev eventControl : BitVec 4 := 1
abbrev eventDlData : BitVec 4 := 2
abbrev eventXrun : BitVec 4 := 4

/-- Mark a downlink slot as overrun under a condition, and raise the event bit if the slot is
marked. -/
def markXrun (c : Machine → Bool) (slot : Fin dlSlots) (r : BitVec 4 × Machine) :
    BitVec 4 × Machine :=
  if c r.2 then
    (r.1 ||| eventXrun, r.2.modBuf fun b => b.mapFlags (.dl slot) (· ||| bufXrun))
  else r

/-- `handle_inbound_rx_data_received`: the flags raised and the new state. -/
def handleInboundRxDataReceived (cmd : Cmd) (m : Machine) : BitVec 4 × Machine :=
  let hw : ℕ := (cmd.word &&& 0xffffff).toNat
  let m := m.modBuf fun b =>
    { b with rxPtrHw := hw, rxPtrAppl := if b.rxPtrAppl < 0 then hw else b.rxPtrAppl }
  let lastSlot := dlSlotOf hw
  let nextSlot := lastSlot + 1
  -- case 1: the driver has overrun the buffer
  let r := markXrun (fun m => m.d.rollingRxPtr && decide (privRxHwDelay m ≥ dlSlots)) lastSlot
    (eventDlData, m)
  -- case 2: the slot the driver writes next is still owned by the application
  let r := markXrun (fun m => (m.buf.dlbufdesc nextSlot).flags &&& bufLocked ≠ 0) nextSlot r
  -- case 3: the slot last used by the driver is still owned by the application
  let r := markXrun (fun m => (m.buf.dlbufdesc lastSlot).flags &&& bufLocked ≠ 0) lastSlot r
  (r.1, r.2.modBuf fun b => { b with ulErrors := 0 })

/-- The backend's part in handling an accepted control message: the event as completed
by it, and the new state. -/
def handleCommandBackend (k : Kernel) (cmd : Cmd) (event : Event) (m : Machine) :
    Event × Machine :=
  let type := msgGetType cmd
  if type = resetConnReq then (event, (privHandleResetConnReq k m).2)
  else if type = resetConnResp then (event, privHandleResetResponse k m)
  else if type = ssiConfigResp then (event, privHandleSsiConfigResp k m)
  else if type = speechConfigReq then
    let req := msgDecodeSpeechConfigReq cmd
    ({ event with msg := .speechConfigReq req true }, privHandleSpeechConfig k req m)
  else if type = timingConfigNtf then
    let t := msgDecodeTimingConfigNtf cmd
    ({ event with msg := .timingConfigNtf t.1 t.2 (m.d.buf.timespec m.d.tstampRxCtrlOffset) }, m)
  else if type = testRampPing then (event, (privHandleTestRampPing k cmd m).2)
  else (event, m)

section
variable (k : Kernel) {cmd : Cmd} (event : Event) (m : Machine)

theorem handleCommandBackend_resetConnReq (h : msgGetType cmd = resetConnReq) :
    handleCommandBackend k cmd event m = (event, (privHandleResetConnReq k m).2) := by
  simp [handleCommandBackend, h]

theorem handleCommandBackend_resetConnResp (h : msgGetType cmd = resetConnResp) :
    handleCommandBackend k cmd event m = (event, privHandleResetResponse k m) := by
  simp [handleCommandBackend, h]

theorem handleCommandBackend_ssiConfigResp (h : msgGetType cmd = ssiConfigResp) :
    handleCommandBackend k cmd event m = (event, privHandleSsiConfigResp k m) := by
  simp [handleCommandBackend, h]

theorem handleCommandBackend_speechConfigReq (h : msgGetType cmd = speechConfigReq) :
    handleCommandBackend k cmd event m =
      ({ event with msg := .speechConfigReq (msgDecodeSpeechConfigReq cmd) true },
        privHandleSpeechConfig k (msgDecodeSpeechConfigReq cmd) m) := by
  simp [handleCommandBackend, h]

theorem handleCommandBackend_timingConfigNtf (h : msgGetType cmd = timingConfigNtf) :
    handleCommandBackend k cmd event m =
      ({ event with
          msg := .timingConfigNtf (msgDecodeTimingConfigNtf cmd).1 (msgDecodeTimingConfigNtf cmd).2
            (m.d.buf.timespec m.d.tstampRxCtrlOffset) }, m) := by
  simp [handleCommandBackend, h]

theorem handleCommandBackend_uplinkConfigNtf (h : msgGetType cmd = uplinkConfigNtf) :
    handleCommandBackend k cmd event m = (event, m) := by
  simp [handleCommandBackend, h]

theorem handleCommandBackend_testRampPing (h : msgGetType cmd = testRampPing) :
    handleCommandBackend k cmd event m = (event, (privHandleTestRampPing k cmd m).2) := by
  simp [handleCommandBackend, h]

end

/-- The branch of `handle_inbound_control_message` for a driver error indication. -/
def handleCsError (k : Kernel) (m : Machine) : Machine :=
  let m' := privInitializeAfterPeerReset k m
  (privQueueControlEvent
    { state := m'.bcstate.protoState, prevState := m.bcstate.protoState, msgType := eventReset
      msg := .resetDone 0 } m').2

/-- `handle_inbound_control_message`: the result, the flags raised, the new state. -/
def handleInboundControlMessage (k : Kernel) (cmd : Cmd) (m : Machine) :
    ℤ × BitVec 4 × Machine :=
  let type := msgGetType cmd
  if msgGetDomain cmd = domainControl then
    let h := bcHandleCommand k cmd m
    if h.1 ≠ 0 then (-1, 0, h.2.2)
    else
      let r := handleCommandBackend k cmd h.2.1 h.2.2
      if type ≠ testRampPing then
        (1, eventControl,
          (privQueueControlEvent { r.1 with state := r.2.bcstate.protoState } r.2).2)
      else (0, 0, r.2)
  else if msgGetDomain cmd = domainInternal then
    if type = csRxDataReceived then
      let r := handleInboundRxDataReceived cmd m
      (1, r.1, r.2)
    else if type = csError then (1, eventControl, handleCsError k m)
    else (0, 0, m)
  else (-1, 0, m)

/-! ### Calls of the application -/

/-- `cmtspeech_check_pending`: `flags` is whether the flags pointer is given, `word`
what the driver delivered, if it delivered a whole word. -/
def checkPending (k : Kernel) (flags : Bool) (word : Option Cmd) (m : Machine) :
    ℤ × BitVec 4 × Machine :=
  if flags = false then (-1, 0, m)
  else
    match word with
    | some cmd => handleInboundControlMessage k cmd (m.emit (.recv cmd))
    | none => (0, 0, m)

/-- `cmtspeech_read_event`: the event that has waited longest, or none. -/
def readEvent (m : Machine) : Option Event × Machine := privDequeueControlEvent m

/-- The part of `cmtspeech_dl_buffer_acquire` that copies and swaps the frame from the
mapped area to the heap buffer. -/
def copyDlFrame (slot : Fin dlSlots) (bd : Buffer dlSlots) (m : Machine) : Machine :=
  if m.bcstate.sampleLayout = sampleLayoutSwappedLe then
    m.modD fun d =>
      let d := d.memcpy bd.data (.mmap (d.rxOffsets slot)) bd.count.toNat
      if bd.pcount > 0 then privInplaceHalfwordSwap bd.payload bd.pcount d else d
  else m

/-- `cmtspeech_dl_buffer_acquire`; `buf` is whether the result pointer is given. -/
def dlBufferAcquire (buf : Bool) (m : Machine) : Except ℤ (Fin dlSlots) × Machine :=
  if m.buf.rxPtrAppl < 0 then (.error (-einval), m)
  else
    match privRxApplSlot m with
    | .error e =>
      if e = -epipe then
        -- resynchronise after an overrun
        acquire (m.modBuf fun b => { b with rxPtrAppl := b.rxPtrHw }) (dlSlotOf m.buf.rxPtrHw)
      else (.error e, m)
    | .ok slot => acquire m slot
where
  /-- The part after the slot has been chosen. -/
  acquire (m : Machine) (slot : Fin dlSlots) : Except ℤ (Fin dlSlots) × Machine :=
    let m := privBumpRxPtrAppl m
    let desc := m.buf.dlbufdesc slot
    if desc.flags &&& bufInvalid ≠ 0 then (.error (-einval), m)
    else if buf = false then (.error (-einval), m)
    else
      let h := (msgDecodeDlDataHeaderV5 dataHeaderLen (m.d.load4 desc.bd.data)).getD
        ⟨0, 0, 0, 0, 0, 0⟩
      let desc : BufDesc dlSlots :=
        { bd :=
            { desc.bd with
              frameFlags := dataTypeValid.toNat
              spcFlags := h.spcFlags
              reserved0 := h.codecSampleRate ||| h.sampleRate <<< 2 }
          flags := desc.flags ||| bufLocked }
      let m := m.modBuf fun b => { b with dlbufdesc := Function.update b.dlbufdesc slot desc }
      let m := copyDlFrame slot desc.bd m
      (.ok slot,
        if m.bcstate.protoState = .testRampPingActive then m.modBc bcTestSequenceReceived else m)

/-- `cmtspeech_dl_buffer_release` of the buffer of descriptor `i`: the library goes by
the index stored in it. -/
def dlBufferRelease (k : Kernel) (i : Fin dlSlots) (m : Machine) : ℤ × Machine :=
  let index := (m.buf.dlbufdesc i).bd.index
  if (m.buf.dlbufdesc index).flags &&& bufLocked = 0 then (-enoent, m)
  else if m.buf.speechConfigRespPend then
    (0, privDrvbufLayoutChangeBufferReleased k (.dl index) m)
  else
    let m := m.modBuf fun b => b.mapFlags (.dl index) (· &&& ~~~bufLocked)
    if (m.buf.dlbufdesc index).flags &&& bufXrun ≠ 0 then
      (-epipe, m.modBuf fun b => b.mapFlags (.dl index) (· &&& ~~~bufXrun))
    else (0, m)

/-- `cmtspeech_ul_buffer_acquire`: the buffer whose turn it is, if the application does not still
hold it. -/
def ulBufferAcquire (buf : Bool) (m : Machine) : Except ℤ (Fin ulSlots) × Machine :=
  if m.bcstate.isActive ≠ true then (.error (-einval), m)
  else
    match m.buf.ulSlotApp with
    | none => (.error (-einval), m)
    | some slot =>
      let desc := m.buf.ulbufdesc slot
      if desc.flags &&& bufInvalid ≠ 0 then (.error (-einval), m)
      else if desc.flags &&& bufLocked ≠ 0 then (.error (-enobufs), m)
      else if buf = false then (.error (-einval), m)
      else
        let desc := { bd := { desc.bd with frameFlags := 0 }, flags := desc.flags ||| bufLocked }
        (.ok slot, m.modBuf fun b =>
          { b with
            ulbufdesc := Function.update b.ulbufdesc slot desc
            ulSlotApp := some (slot + 1) })

/-- `priv_write_data`: it leaves `io_errors` alone. -/
def privWriteData (k : Kernel) (msg : Cmd) (m : Machine) : WriteRes × Machine :=
  (k.write m.tick, m.syscall (.writeData msg (k.write m.tick)))

/-- The branch of `cmtspeech_ul_buffer_release` that sends the frame of descriptor `i`. -/
def ulBufferSend (k : Kernel) (i : Fin ulSlots) (m : Machine) : ℤ × Machine :=
  let bd := (m.buf.ulbufdesc i).bd
  let m := m.modD fun d =>
    let d :=
      if m.bcstate.sampleLayout = sampleLayoutSwappedLe then
        privInplaceHalfwordSwap bd.payload bd.pcount d
      else d
    let header : UlDataHeader :=
      ⟨m.ulCounter, m.buf.confDataLength, m.buf.confSampleRate, BitVec.ofInt 8 bd.frameFlags⟩
    d.store4 bd.data ((msgEncodeUlDataHeader dataHeaderLen header).getD (d.load4 bd.data))
  let msg := privMsgEncodeDriverMessage csTxDataReady (BitVec.ofNat 8 bd.index)
  let w := privWriteData k msg m
  if w.1.res = ctrlLen then (0, { w.2 with ulCounter := w.2.ulCounter + 4 })
  else if w.1.res < 0 ∧ w.1.errno = ebusy then
    (-ebusy, w.2.modBuf fun b => { b with ulErrors := b.ulErrors + 1 })
  else
    -- stop sending more uplink frames immediately
    (-einval, w.2.modBuf fun b => { b with ulErrors := maxUlErrorsPause })

/-- The part of `cmtspeech_ul_buffer_release` without a deferred reply. -/
def ulBufferSubmit (k : Kernel) (i : Fin ulSlots) (m : Machine) : ℤ × Machine :=
  if m.buf.ulErrors ≥ maxUlErrorsPause then
    if m.bcstate.ioErrors > 0 then (-eio, m) else (-ebusy, m)
  else if m.bcstate.protoState = .activeDlul then ulBufferSend k i m
  else (-epipe, m)

/-- `cmtspeech_ul_buffer_release` of the buffer of descriptor `i`, `none` for a null
pointer. -/
def ulBufferRelease (k : Kernel) (buf : Option (Fin ulSlots)) (m : Machine) : ℤ × Machine :=
  match buf with
  | none => (-einval, m)
  | some i =>
    let index := (m.buf.ulbufdesc i).bd.index
    if m.buf.speechConfigRespPend then
      (0, privDrvbufLayoutChangeBufferReleased k (.ul index) m)
    else
      let r := ulBufferSubmit k i m
      (r.1, r.2.modBuf fun b => b.mapFlags (.ul index) (· &&& ~~~bufLocked))

/-- `cmtspeech_test_data_ramp_req`: the layout is made, the line raised, and the request sent. -/
def testDataRampReq (k : Kernel) (rampstart ramplen : BitVec 8) (m : Machine) : ℤ × Machine :=
  let c := privInitBufconfigForTestRampPing k ramplen m
  if c.1 < 0 then c
  else
    let a := privAcquireWakeline k wakelineTestRampPing c.2
    if a.1 < 0 then a
    else bcTestDataRampReq k (BitVec.ofNat 8 domainControl) (BitVec.ofNat 8 domainData) rampstart
      ramplen a.2

/-- `cmtspeech_open` on a successfully opened device: `m` is what the allocated memory
held before, `area` the mapped area. -/
def cmtspeechOpen (area : MmapArea) (m : Machine) : Machine where
  d := { m.d with wakelineUsers := 0, rollingRxPtr := false, evbuf := [], buf := area }
  bcstate := m.bcstate.bcOpen
  buf := privResetBufStateToDisconnected
  ulCounter := m.ulCounter
  tick := 0
  out := []

end CmtSpeech
