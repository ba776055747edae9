import CmtSpeech.Msgs

/-!
# The state of a library instance

The data types of `cmtspeech.h`, `cmtspeech_backend_common.h` and
`cmtspeech_nokiamodem.c`, and the boundary to the kernel driver.

* `BcState` — `struct cmtspeech_bc_state_s`, the protocol state.
* `BufDesc`, `BufState` — the buffer descriptors and the fields the source labels
  "buf state".
* `DriverState` — `struct nokiamodem_driver_state_s`.
* `Kernel` — the answers of the kernel to the system calls of one operation.
* `Obs` — what an operation does at its boundaries: the words it reads, the
  messages it writes, the events it queues.
* `Machine` — the whole instance, with the log of the operation in progress.

Descriptor indices are `Fin`, so an index outside the descriptor arrays cannot be
built; the pointers of the source are an area and an offset.  The `SOFT_ASSERT` and
`STATE_ASSERT` macros only write a trace message and are not modelled.
-/

namespace CmtSpeech

/-! ### Build-time configuration -/

abbrev eventBufferSize : ℕ := 64
abbrev pcmSampleSize : ℕ := 2
abbrev maxSlotSize : ℕ := pcmSampleSize * 320 + dataHeaderLen
abbrev ulSlots : ℕ := 2
abbrev dlSlots : ℕ := 3
abbrev maxUlErrorsPause : ℕ := 5

instance : NeZero ulSlots := ⟨by decide⟩
instance : NeZero dlSlots := ⟨by decide⟩

/-! ### Error codes -/

abbrev enoent : ℤ := 2
abbrev eio : ℤ := 5
abbrev ebusy : ℤ := 16
abbrev einval : ℤ := 22
abbrev epipe : ℤ := 32
abbrev enodata : ℤ := 61
abbrev enobufs : ℤ := 105

/-! ### Protocol state -/

/-- `enum cmtspeech_state`: the public states of the protocol, as the events report them. -/
inductive ProtoState where
  | invalid
  | disconnected
  | connected
  | activeDl
  | activeDlul
  | testRampPingActive
  deriving DecidableEq, Repr

/-- `enum cmtspeech_bc_state`, the values of the field `priv_state`. -/
inductive PrivState where
  /-- The state describes `protoState`. -/
  | inSync
  /-- A `NEW_TIMING_CONFIG_REQ` is in progress. -/
  | timing
  | resetBeforeConnect
  /-- `SSI_CONFIG_REQ(1)` has been sent. -/
  | connecting
  /-- `SSI_CONFIG_REQ(0)` has been sent. -/
  | disconnecting
  /-- Waiting for the previous `SSI_CONFIG_REQ`. -/
  | ssiConfigPend
  /-- `SPEECH_CONFIG_REQ(1)` processed, reply not sent. -/
  | configActPend
  /-- `SPEECH_CONFIG_REQ(0)` processed, reply not sent. -/
  | configDeactPend
  deriving DecidableEq, Repr

/-- `struct cmtspeech_bc_state_s`: what the common code keeps, for whichever backend it serves. -/
structure BcState where
  /-- Whether the call server is active. -/
  callServerActive : Bool
  /-- Whether the call has been connected. -/
  callConnected : Bool
  protoState : ProtoState
  /-- Extension to `protoState`. -/
  privState : PrivState
  sampleLayout : ℤ
  /-- Counter of fatal i/o errors. -/
  ioErrors : ℕ
  /-- Which protocol version to use. -/
  confProtoVersion : BitVec 8
  deriving DecidableEq, Repr

/-! ### Events -/

/-- `struct timespec`, whose parts are signed and not kept in range by the type. -/
structure Timespec where
  tvSec : ℤ
  tvNsec : ℤ
  deriving DecidableEq, Repr

/-- The union `msg` of an event, as far as the handlers fill it. -/
inductive EventMsg where
  | none
  | ssiConfigResp (resp : SsiConfigResp) (version : BitVec 8)
  | speechConfigReq (req : SpeechConfigReq) (layoutChanged : Bool)
  | timingConfigNtf (msec usec : BitVec 16) (tstamp : Timespec)
  | resetDone (cmtSentReq : ℤ)
  deriving DecidableEq, Repr

/-- `struct cmtspeech_event_s`: the state after and before the message, and the message. -/
structure Event where
  state : ProtoState
  prevState : ProtoState
  msgType : ℕ
  msg : EventMsg
  deriving DecidableEq, Repr

/-! ### Buffers -/

/-- A pointer into the mapped driver area or into `dlswapbuf`.  The two never overlap, so that a
pointer is an area and an offset in it. -/
inductive Ptr where
  | null
  | mmap (off : ℕ)
  | dlswap (off : ℕ)
  deriving DecidableEq, Repr

/-- Pointer arithmetic within an area; the null pointer stays null. -/
def Ptr.add : Ptr → ℕ → Ptr
  | .null, _ => .null
  | .mmap off, n => .mmap (off + n)
  | .dlswap off, n => .dlswap (off + n)

abbrev bufLocked : BitVec 4 := 1
abbrev bufInvalid : BitVec 4 := 2
abbrev bufXrun : BitVec 4 := 4

/-- `struct cmtspeech_buffer_s` for an array of `n` descriptors; of the field
`reserved` only the first slot is used. -/
structure Buffer (n : ℕ) where
  type : ℤ
  count : ℤ
  pcount : ℤ
  size : ℤ
  frameFlags : ℤ
  spcFlags : BitVec 8
  data : Ptr
  payload : Ptr
  index : Fin n
  reserved0 : BitVec 8
  deriving DecidableEq, Repr

/-- `struct nokiamodem_buffer_desc_s`: what the application sees of a buffer, and the marks of the
library. -/
structure BufDesc (n : ℕ) where
  bd : Buffer n
  flags : BitVec 4
  deriving DecidableEq, Repr

/-- A descriptor after `memset`, with null pointers and no marks. -/
def BufDesc.zero (n : ℕ) [NeZero n] : BufDesc n where
  bd :=
    { type := 0, count := 0, pcount := 0, size := 0, frameFlags := 0, spcFlags := 0,
      data := .null, payload := .null, index := 0, reserved0 := 0 }
  flags := 0

/-- A position in one of the two descriptor arrays, by which the application knows a buffer. -/
inductive Slot where
  | ul (i : Fin ulSlots)
  | dl (i : Fin dlSlots)
  deriving DecidableEq, Repr

/-- The "buf state" fields of `struct cmtspeech_nokiamodem_s`. -/
structure BufState where
  /-- A response is waiting to be sent. -/
  speechConfigRespPend : Bool
  /-- Data frame slot (header and payload) size in octets. -/
  slotSize : ℕ
  confSampleRate : BitVec 8
  confDataLength : BitVec 8
  /-- Number of consecutive uplink errors. -/
  ulErrors : ℕ
  /-- Next position the driver will write to, `-1` if not yet configured. -/
  rxPtrHw : ℤ
  /-- Next position to give out to the application, `-1` if none is available yet. -/
  rxPtrAppl : ℤ
  /-- Next slot to give to the application, `none` for the `-1` of the source. -/
  ulSlotApp : Option (Fin ulSlots)
  dlbufdesc : Fin dlSlots → BufDesc dlSlots
  ulbufdesc : Fin ulSlots → BufDesc ulSlots

/-! ### The driver -/

/-- `struct cs_mmap_config_block` and the rest of the mapped area, which the driver
may change at any time.  The offset arrays are cut to the slots in use. -/
structure MmapArea where
  rxOffsets : Fin dlSlots → ℕ
  txOffsets : Fin ulSlots → ℕ
  rxPtr : BitVec 32
  rxPtrBoundary : BitVec 32
  /-- The octets of the frame slots. -/
  bytes : ℕ → BitVec 8
  /-- The area read as a `struct timespec` at an offset. -/
  timespec : ℕ → Timespec

abbrev wakelineCall : BitVec 3 := 1
abbrev wakelineReset : BitVec 3 := 2
abbrev wakelineTestRampPing : BitVec 3 := 4

/-- `struct nokiamodem_driver_state_s`.  The ring `evbuf` is modelled by the events
it holds, oldest first. -/
structure DriverState where
  /-- Bitmask of wakeline users. -/
  wakelineUsers : BitVec 3
  /-- `DRIVER_FEAT_ROLLING_RX_PTR`, the only bit of `flags`. -/
  rollingRxPtr : Bool
  buf : MmapArea
  dlswapbuf : ℕ → BitVec 8
  evbuf : List Event
  rxOffsets : Fin dlSlots → ℕ
  txOffsets : Fin ulSlots → ℕ
  tstampRxCtrlOffset : ℕ

/-- What `write` returned, and `errno` after it. -/
structure WriteRes where
  res : ℤ
  errno : ℤ
  deriving DecidableEq, Repr

/-- The kernel's answers to the system calls of one operation: `write n` is the
outcome if the `n`-th call is a `write`, and so on. -/
structure Kernel where
  write : ℕ → WriteRes
  /-- `ioctl(CS_SET_WAKELINE)` -/
  setWakeline : ℕ → ℤ
  /-- `ioctl(CS_GET_IF_VERSION)`, `none` when it fails. -/
  getIfVersion : ℕ → Option ℕ
  /-- `ioctl(CS_CONFIG_BUFS)` -/
  configBufs : ℕ → ℤ
  /-- The mapped area after `ioctl(CS_CONFIG_BUFS)`. -/
  configArea : ℕ → MmapArea

/-- What an operation does at the boundaries of the library: the system calls with their results,
the words it reads, the events it queues and the calls of the application.  The trace of a run is
made of these. -/
inductive Obs where
  /-- A word was read from the driver. -/
  | recv (cmd : Cmd)
  /-- The application called `cmtspeech_state_change_call_status`. -/
  | callStatus (serverState : Bool)
  /-- `cmtspeech_bc_write_command` wrote a message. -/
  | write (msg : Cmd) (res : WriteRes)
  /-- `cmtspeech_bc_write_command` is done with a message written in full: the
  protocol state at that moment. -/
  | posted (msg : Cmd) (state : BcState)
  /-- `priv_write_data` wrote a message. -/
  | writeData (msg : Cmd) (res : WriteRes)
  | setWakeline (status : Bool) (res : ℤ)
  | configBufs (bufSize : ℕ) (res : ℤ)
  /-- An event was queued for the application. -/
  | queued (event : Event)
  deriving DecidableEq, Repr

/-! ### The machine -/

/-- A library instance (`struct cmtspeech_nokiamodem_s`), the static `ul_counter` of
`cmtspeech_ul_buffer_release`, and the operation in progress: how many system calls
it has made and what it has done. -/
structure Machine where
  d : DriverState
  bcstate : BcState
  buf : BufState
  ulCounter : BitVec 16
  tick : ℕ
  out : List Obs

namespace Machine

/-- Record what the operation does, after what it has done so far. -/
def emit (m : Machine) (o : Obs) : Machine := { m with out := m.out ++ [o] }

/-- Update the protocol state, with the rest of the instance as it is. -/
def modBc (m : Machine) (f : BcState → BcState) : Machine := { m with bcstate := f m.bcstate }

/-- Update the driver state, with the rest of the instance as it is. -/
def modD (m : Machine) (f : DriverState → DriverState) : Machine := { m with d := f m.d }

/-- Update the buffer state, with the rest of the instance as it is. -/
def modBuf (m : Machine) (f : BufState → BufState) : Machine := { m with buf := f m.buf }

/-- A system call with observation `o` has been made. -/
def syscall (m : Machine) (o : Obs) : Machine :=
  { m with tick := m.tick + 1, out := m.out ++ [o] }

section
variable (m : Machine) (o : Obs) (fb : BcState → BcState) (fd : DriverState → DriverState)
  (ff : BufState → BufState)

@[simp] theorem emit_d : (m.emit o).d = m.d := rfl
@[simp] theorem emit_bcstate : (m.emit o).bcstate = m.bcstate := rfl
@[simp] theorem emit_buf : (m.emit o).buf = m.buf := rfl
@[simp] theorem emit_out : (m.emit o).out = m.out ++ [o] := rfl
@[simp] theorem emit_tick : (m.emit o).tick = m.tick := rfl

@[simp] theorem modBc_d : (m.modBc fb).d = m.d := rfl
@[simp] theorem modBc_bcstate : (m.modBc fb).bcstate = fb m.bcstate := rfl
@[simp] theorem modBc_buf : (m.modBc fb).buf = m.buf := rfl
@[simp] theorem modBc_out : (m.modBc fb).out = m.out := rfl
@[simp] theorem modBc_tick : (m.modBc fb).tick = m.tick := rfl

@[simp] theorem modD_d : (m.modD fd).d = fd m.d := rfl
@[simp] theorem modD_bcstate : (m.modD fd).bcstate = m.bcstate := rfl
@[simp] theorem modD_buf : (m.modD fd).buf = m.buf := rfl
@[simp] theorem modD_out : (m.modD fd).out = m.out := rfl
@[simp] theorem modD_tick : (m.modD fd).tick = m.tick := rfl

@[simp] theorem modBuf_d : (m.modBuf ff).d = m.d := rfl
@[simp] theorem modBuf_bcstate : (m.modBuf ff).bcstate = m.bcstate := rfl
@[simp] theorem modBuf_buf : (m.modBuf ff).buf = ff m.buf := rfl
@[simp] theorem modBuf_out : (m.modBuf ff).out = m.out := rfl
@[simp] theorem modBuf_tick : (m.modBuf ff).tick = m.tick := rfl

@[simp] theorem syscall_d : (m.syscall o).d = m.d := rfl
@[simp] theorem syscall_bcstate : (m.syscall o).bcstate = m.bcstate := rfl
@[simp] theorem syscall_buf : (m.syscall o).buf = m.buf := rfl
@[simp] theorem syscall_out : (m.syscall o).out = m.out ++ [o] := rfl
@[simp] theorem syscall_tick : (m.syscall o).tick = m.tick + 1 := rfl

end

end Machine

end CmtSpeech
