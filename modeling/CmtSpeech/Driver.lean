import CmtSpeech.State
import Mathlib.Data.List.FinRange

/-!
# The driver side of the backend

The lower half of `cmtspeech_nokiamodem.c`: system calls, the SSI wakeline, the
buffer descriptors and their configuration, and the queue of control events.  None
of it touches the protocol state.

* `privAcquireWakeline`, `privReleaseWakeline`, `privResetWakelineState`
* `privInitializeBufferDescriptor`, `privUpdateDlBufferDescriptors`,
  `privInvalidateBufferSlots`, `privLockedBufdescs`
* `privSetupDriverBufconfig` — a new layout, or the torn-down one for slot size 0.
* `privQueueControlEvent`, `privDequeueControlEvent`
-/

namespace CmtSpeech

/-! ### System calls -/

/-- `write` of a control message: the kernel's next answer, and the observation of it. -/
def sysWrite (k : Kernel) (msg : Cmd) (m : Machine) : WriteRes × Machine :=
  (k.write m.tick, m.syscall (.write msg (k.write m.tick)))

/-- `ioctl(CS_SET_WAKELINE)`: the kernel's next answer, and the observation of it. -/
def ioctlSetWakeline (k : Kernel) (status : Bool) (m : Machine) : ℤ × Machine :=
  (k.setWakeline m.tick, m.syscall (.setWakeline status (k.setWakeline m.tick)))

/-- `ioctl(CS_GET_IF_VERSION)`; version 0 when the driver does not know the call. -/
def ioctlGetIfVersion (k : Kernel) (m : Machine) : ℕ × Machine :=
  ((k.getIfVersion m.tick).getD 0, { m with tick := m.tick + 1 })

/-- `ioctl(CS_CONFIG_BUFS)`: the driver lays out the mapped area anew. -/
def ioctlConfigBufs (k : Kernel) (bufSize : ℕ) (m : Machine) : ℤ × Machine :=
  (k.configBufs m.tick,
    (m.syscall (.configBufs bufSize (k.configBufs m.tick))).modD fun d =>
      { d with buf := k.configArea m.tick })

/-! ### The SSI wakeline -/

/-- `priv_acquire_wakeline`: the user is recorded even if the line could not be raised. -/
def privAcquireWakeline (k : Kernel) (id : BitVec 3) (m : Machine) : ℤ × Machine :=
  let r := if m.d.wakelineUsers = 0 then ioctlSetWakeline k true m else (0, m)
  (r.1, r.2.modD fun d => { d with wakelineUsers := d.wakelineUsers ||| id })

/-- `priv_release_wakeline`: the line goes down with the last of its users, and only then. -/
def privReleaseWakeline (k : Kernel) (id : BitVec 3) (m : Machine) : ℤ × Machine :=
  if m.d.wakelineUsers ≠ 0 then
    let m := m.modD fun d => { d with wakelineUsers := d.wakelineUsers &&& ~~~id }
    if m.d.wakelineUsers = 0 then ioctlSetWakeline k false m else (0, m)
  else (0, m)

/-- `priv_reset_wakeline_state`: all users are forgotten, whatever the driver answers. -/
def privResetWakelineState (k : Kernel) (m : Machine) : Machine :=
  (ioctlSetWakeline k false m).2.modD fun d => { d with wakelineUsers := 0 }

/-! ### Buffer descriptors -/

/-- `priv_initialize_buffer_descriptor`: a slot of the driver as a buffer, with its payload behind
the header. -/
def privInitializeBufferDescriptor {n : ℕ} (bd : BufDesc n) (slotbuf : Ptr) (slotSize : ℕ)
    (frameFlags : ℤ) (index : Fin n) (descFlags : BitVec 4) : BufDesc n where
  bd :=
    { bd.bd with
      type := 0
      count := slotSize
      pcount := slotSize - dataHeaderLen
      size := slotSize
      frameFlags := frameFlags
      data := slotbuf
      payload := slotbuf.add dataHeaderLen
      index := index }
  flags := descFlags

/-- `priv_initialize_tx_buffer_descriptors_mmap` -/
def privInitializeTxBufferDescriptorsMmap (descFlags : BitVec 4) (m : Machine) : Machine :=
  m.modBuf fun b =>
    { b with
      ulbufdesc := fun i =>
        privInitializeBufferDescriptor (b.ulbufdesc i) (.mmap (m.d.buf.txOffsets i)) b.slotSize 0
          i descFlags }

/-- `priv_initialize_rx_buffer_descriptors_mmap` -/
def privInitializeRxBufferDescriptorsMmap (descFlags : BitVec 4) (m : Machine) : Machine :=
  m.modBuf fun b =>
    { b with
      dlbufdesc := fun i =>
        privInitializeBufferDescriptor (b.dlbufdesc i) (.mmap (m.d.buf.rxOffsets i)) b.slotSize 0
          i descFlags }

/-- `priv_update_dl_buffer_descriptors`: the offsets are the instance's own copy, not
the driver's. -/
def privUpdateDlBufferDescriptors (m : Machine) : Machine :=
  m.modBuf fun b =>
    { b with
      dlbufdesc := fun i =>
        privInitializeBufferDescriptor (b.dlbufdesc i)
          (if m.bcstate.sampleLayout = sampleLayoutSwappedLe then .dlswap (i * b.slotSize)
            else .mmap (m.d.rxOffsets i))
          b.slotSize (b.dlbufdesc i).bd.frameFlags i 0 }

/-- `priv_locked_bufdescs`: how many descriptors the application holds. -/
def privLockedBufdescs (b : BufState) : ℕ :=
  (List.finRange ulSlots).countP (fun i => (b.ulbufdesc i).flags &&& bufLocked ≠ 0) +
    (List.finRange dlSlots).countP (fun i => (b.dlbufdesc i).flags &&& bufLocked ≠ 0)

/-- `priv_invalidate_buffer_slots`: no buffer is given out any more until the next layout. -/
def privInvalidateBufferSlots (b : BufState) : BufState :=
  { b with
    ulbufdesc := fun i => { b.ulbufdesc i with flags := (b.ulbufdesc i).flags ||| bufInvalid }
    dlbufdesc := fun i => { b.dlbufdesc i with flags := (b.dlbufdesc i).flags ||| bufInvalid } }

/-- `priv_reset_buf_state_to_disconnected`: it sets every field, so the old state
does not matter. -/
def privResetBufStateToDisconnected : BufState :=
  privInvalidateBufferSlots
    { slotSize := 0
      confSampleRate := -1
      confDataLength := -1
      speechConfigRespPend := false
      ulErrors := 0
      rxPtrHw := -1
      rxPtrAppl := -1
      ulSlotApp := none
      dlbufdesc := fun _ => BufDesc.zero dlSlots
      ulbufdesc := fun _ => BufDesc.zero ulSlots }

/-! ### Buffer configuration -/

/-- The offset of `tstamp_rx_ctrl` in `struct cs_mmap_config_block`, with 32-bit fields. -/
abbrev offsetofTstampRxCtrl : ℕ := 4 * (5 + 16 + 16 + 2 + 2)

/-- `priv_setup_driver_bufconfig_v2api`: the layout is asked for, and the descriptors are set from
the driver's table. -/
def privSetupDriverBufconfigV2api (k : Kernel) (m : Machine) : ℤ × Machine :=
  let v := ioctlGetIfVersion k m
  let c := ioctlConfigBufs k m.buf.slotSize v.2
  if c.1 = 0 then
    let m := if v.1 > 0 then c.2.modD fun d => { d with rollingRxPtr := true } else c.2
    -- only when activating
    if m.buf.slotSize > 0 then
      (c.1, (privInitializeTxBufferDescriptorsMmap 0
          (privInitializeRxBufferDescriptorsMmap 0 m)).modD fun d =>
        { d with tstampRxCtrlOffset := offsetofTstampRxCtrl })
    else (c.1, m)
  else (c.1, c.2)

/-- `priv_setup_driver_bufconfig`: the positions and counts of the stream start anew, before the
driver is asked. -/
def privSetupDriverBufconfig (k : Kernel) (m : Machine) : ℤ × Machine :=
  let m := m.modBuf fun b =>
    if b.slotSize = 0 then privResetBufStateToDisconnected
    else { b with ulErrors := 0, rxPtrHw := -1, rxPtrAppl := -1, ulSlotApp := some 0 }
  privSetupDriverBufconfigV2api k m

/-! ### The control event queue -/

/-- The ring keeps one octet open, so it holds one event less than its slots. -/
abbrev eventCapacity : ℕ := eventBufferSize - 1

/-- `priv_queue_control_event`: on a full queue the oldest event is lost, and the new one takes
its place at the end. -/
def privQueueControlEvent (event : Event) (m : Machine) : ℤ × Machine :=
  let full := m.d.evbuf.length ≥ eventCapacity
  let m := (m.emit (.queued event)).modD fun d =>
    { d with
      evbuf := (if d.evbuf.length ≥ eventCapacity then d.evbuf.tail else d.evbuf) ++ [event] }
  (if full then -1 else 0, m)

/-- `priv_dequeue_control_event`: the oldest event, or none. -/
def privDequeueControlEvent (m : Machine) : Option Event × Machine :=
  match m.d.evbuf with
  | [] => (none, m)
  | event :: rest => (some event, m.modD fun d => { d with evbuf := rest })

end CmtSpeech
