import Mathlib.Data.Int.Notation
import Mathlib.Data.Nat.Notation
import Mathlib.Tactic.IntervalCases

/-!
# Protocol messages

The encoders and decoders of `cmtspeech_msgs.c`.  A control message, and likewise a
data frame header, is four octets; the source addresses them as `BYTE0` (the most
significant one) to `BYTE3`, and so does `Cmd`.  Octets are `BitVec 8`: where C
computes in `int` and stores into a `uint8_t`, the bits above the eighth are lost
in both.
-/

namespace CmtSpeech

/-! ### Constants -/

abbrev resetConnReq : ℕ := 0x00
abbrev resetConnResp : ℕ := 0x01
abbrev ssiConfigReq : ℕ := 0x02
abbrev speechConfigReq : ℕ := 0x03
abbrev timingConfigNtf : ℕ := 0x04
abbrev newTimingConfigReq : ℕ := 0x05
abbrev ssiConfigResp : ℕ := 0x06
abbrev speechConfigResp : ℕ := 0x07
abbrev uplinkConfigNtf : ℕ := 0x08
abbrev testRampPing : ℕ := 0x0c

/-- Library event type, outside the range of control message types. -/
abbrev eventReset : ℕ := 0xff03

abbrev ctrlLen : ℤ := 4
abbrev dataHeaderLen : ℕ := 4

abbrev domainInternal : ℕ := 0x00
abbrev domainControl : ℕ := 0x01
abbrev domainData : ℕ := 0x02

/-- The layouts that `sample_layout` is compared with, an `int` for which `-1` means unset. -/
abbrev sampleLayoutNoPref : ℤ := 0x00
abbrev sampleLayoutSwappedLe : ℤ := 0x01

/-- The layout that is asked for and answered, an octet of a message. -/
abbrev sampleLayoutInorderLe : BitVec 8 := 0x02

abbrev sampleRateNone : BitVec 8 := 0x00
abbrev sampleRate8khz : BitVec 8 := 0x01
abbrev sampleRate16khz : BitVec 8 := 0x02

abbrev dataLengthNone : BitVec 8 := 0x00
abbrev dataLength20ms : BitVec 8 := 0x02

abbrev dataTypeInvalid : BitVec 8 := 0x01
abbrev dataTypeValid : BitVec 8 := 0x02

abbrev ssiConfigResSuccess : BitVec 8 := 0x00

/-! ### Messages -/

/-- `struct cmtspeech_cmd_s`: four octets, `byte0` the most significant. -/
structure Cmd where
  byte0 : BitVec 8
  byte1 : BitVec 8
  byte2 : BitVec 8
  byte3 : BitVec 8
  deriving DecidableEq, Repr

/-- The field `d.cmd` of the union: the four octets as one 32-bit word. -/
def Cmd.word (cmd : Cmd) : BitVec 32 := cmd.byte0 ++ cmd.byte1 ++ cmd.byte2 ++ cmd.byte3

/-- `cmtspeech_msg_get_type`: the upper half of the first octet, which is never negative. -/
def msgGetType (cmd : Cmd) : ℕ := (cmd.byte0 >>> 4).toNat

/-- `cmtspeech_msg_get_domain`: the lower half of the first octet. -/
def msgGetDomain (cmd : Cmd) : ℕ := (cmd.byte0 &&& 0xf).toNat

/-- The first octet of a control message of type `type` in domain `domain`. -/
def headOctet (type domain : ℕ) : BitVec 8 := BitVec.ofNat 8 (type <<< 4 ||| domain)

/-! ### Data frame headers -/

/-- The fields of an uplink data header, as the arguments of its two functions. -/
structure UlDataHeader where
  frameCounter : BitVec 16
  dataLength : BitVec 8
  sampleRate : BitVec 8
  dataType : BitVec 8
  deriving DecidableEq, Repr

/-- `cmtspeech_msg_encode_ul_data_header`; `none` stands for the result `-1`. -/
def msgEncodeUlDataHeader (len : ℤ) (h : UlDataHeader) : Option Cmd :=
  if len < 4 then none
  else some
    { byte0 := (h.frameCounter >>> 8).setWidth 8
      byte1 := h.frameCounter.setWidth 8
      byte2 := 0
      byte3 := (h.dataLength &&& 0x3) <<< 4 ||| (h.sampleRate &&& 0x3) <<< 2 |||
        (h.dataType &&& 0x3) }

/-- `cmtspeech_msg_decode_ul_data_header`, which fails on a buffer too short for a header. -/
def msgDecodeUlDataHeader (len : ℤ) (buf : Cmd) : Option UlDataHeader :=
  if len < 4 then none
  else some
    { frameCounter := buf.byte0.setWidth 16 <<< 8 ||| buf.byte1.setWidth 16
      dataLength := (buf.byte3 >>> 4) &&& 0x3
      sampleRate := (buf.byte3 >>> 2) &&& 0x3
      dataType := buf.byte3 &&& 0x3 }

/-- The fields of a downlink data header, the codec's sample rate of version 5 included. -/
structure DlDataHeader where
  frameCounter : BitVec 16
  spcFlags : BitVec 8
  dataLength : BitVec 8
  sampleRate : BitVec 8
  codecSampleRate : BitVec 8
  dataType : BitVec 8
  deriving DecidableEq, Repr

/-- `cmtspeech_msg_encode_dl_data_header_v5`, which fails on a buffer too short for a header. -/
def msgEncodeDlDataHeaderV5 (len : ℤ) (h : DlDataHeader) : Option Cmd :=
  if len < 4 then none
  else some
    { byte0 := (h.frameCounter >>> 8).setWidth 8
      byte1 := h.frameCounter.setWidth 8
      byte2 := (h.codecSampleRate &&& 0x3) <<< 7 ||| ((h.spcFlags >>> 2) &&& 0x1f)
      byte3 := (h.spcFlags &&& 0x3) <<< 6 ||| (h.dataLength &&& 0x3) <<< 4 |||
        (h.sampleRate &&& 0x3) <<< 2 ||| (h.dataType &&& 0x3) }

/-- `cmtspeech_msg_decode_dl_data_header_v5`, which fails on a buffer too short for a header. -/
def msgDecodeDlDataHeaderV5 (len : ℤ) (buf : Cmd) : Option DlDataHeader :=
  if len < 4 then none
  else some
    { frameCounter := buf.byte0.setWidth 16 <<< 8 ||| buf.byte1.setWidth 16
      spcFlags := (buf.byte2 &&& 0x1f) <<< 2 ||| ((buf.byte3 >>> 6) &&& 0x3)
      dataLength := (buf.byte3 >>> 4) &&& 0x3
      sampleRate := (buf.byte3 >>> 2) &&& 0x3
      codecSampleRate := (buf.byte2 >>> 5) &&& 0x3
      dataType := buf.byte3 &&& 0x3 }

/-! ### Control messages -/

/-- The fields of a `SPEECH_CONFIG_REQ`, each of them an octet wherever the program keeps it. -/
structure SpeechConfigReq where
  speechDataStream : BitVec 8
  callUserConnectingInd : BitVec 8
  codecInfo : BitVec 8
  cellularInfo : BitVec 8
  sampleRate : BitVec 8
  dataFormat : BitVec 8
  deriving DecidableEq, Repr

/-- `cmtspeech_msg_encode_speech_config_req`: six fields, of which one lies over two octets. -/
def msgEncodeSpeechConfigReq (r : SpeechConfigReq) : Cmd where
  byte0 := headOctet speechConfigReq domainControl
  byte1 := 0
  byte2 := (r.speechDataStream &&& 0x1) <<< 3 ||| (r.callUserConnectingInd &&& 0x1) <<< 2 |||
    (r.codecInfo &&& 0xf) >>> 2
  byte3 := (r.codecInfo &&& 0xf) <<< 6 ||| (r.cellularInfo &&& 0x3) <<< 4 |||
    (r.sampleRate &&& 0x3) <<< 2 ||| (r.dataFormat &&& 0x3)

/-- `cmtspeech_msg_decode_speech_config_req`: all of its fields are asked for. -/
def msgDecodeSpeechConfigReq (cmd : Cmd) : SpeechConfigReq where
  speechDataStream := (cmd.byte2 >>> 3) &&& 0x1
  callUserConnectingInd := (cmd.byte2 >>> 2) &&& 0x1
  codecInfo := (cmd.byte2 <<< 2 ||| cmd.byte3 >>> 6) &&& 0xf
  cellularInfo := (cmd.byte3 >>> 4) &&& 0x3
  sampleRate := (cmd.byte3 >>> 2) &&& 0x3
  dataFormat := cmd.byte3 &&& 0x3

/-- `priv_cmtspeech_msg_encode_simple_message` -/
def msgEncodeSimpleMessage (simplecmd : ℕ) : Cmd where
  byte0 := headOctet simplecmd domainControl
  byte1 := 0
  byte2 := 0
  byte3 := 0

/-- `cmtspeech_msg_encode_new_timing_config_req` -/
def msgEncodeNewTimingConfigReq : Cmd := msgEncodeSimpleMessage newTimingConfigReq

/-- `cmtspeech_msg_encode_uplink_config_ntf`, a message with nothing but its type. -/
def msgEncodeUplinkConfigNtf : Cmd := msgEncodeSimpleMessage uplinkConfigNtf

/-- `cmtspeech_msg_encode_timing_config_ntf`: the two times lie next to each other, over three
octets. -/
def msgEncodeTimingConfigNtf (msec usec : BitVec 16) : Cmd where
  byte0 := headOctet timingConfigNtf domainControl
  byte1 := ((msec &&& 0x1ff) >>> 6).setWidth 8
  byte2 := ((msec &&& 0x1ff) <<< 2 ||| (usec &&& 0x3ff) >>> 8).setWidth 8
  byte3 := (usec &&& 0xff).setWidth 8

/-- `cmtspeech_msg_decode_timing_config_ntf`: the milliseconds and microseconds. -/
def msgDecodeTimingConfigNtf (cmd : Cmd) : BitVec 16 × BitVec 16 :=
  ((cmd.byte1 &&& 0x7).setWidth 16 <<< 6 ||| cmd.byte2.setWidth 16 >>> 2,
    (cmd.byte2 &&& 0x3).setWidth 16 <<< 8 ||| cmd.byte3.setWidth 16)

/-- The fields of an `SSI_CONFIG_REQ`, by which the library asks for a connection. -/
structure SsiConfigReq where
  layout : BitVec 8
  version : BitVec 8
  state : BitVec 8
  deriving DecidableEq, Repr

/-- `cmtspeech_msg_encode_ssi_config_req`: layout, protocol version and the state that is asked
for. -/
def msgEncodeSsiConfigReq (layout version state : BitVec 8) : Cmd where
  byte0 := headOctet ssiConfigReq domainControl
  byte1 := 0
  byte2 := layout &&& 0x7
  byte3 := (version &&& 0xf) <<< 1 ||| (state &&& 0x1)

/-- `cmtspeech_msg_decode_ssi_config_req`, for the side that is asked. -/
def msgDecodeSsiConfigReq (cmd : Cmd) : SsiConfigReq where
  layout := cmd.byte2 &&& 0x7
  version := (cmd.byte3 >>> 1) &&& 0xf
  state := cmd.byte3 &&& 0x1

/-- The fields of an `SSI_CONFIG_RESP`, by which the modem grants or refuses a connection. -/
structure SsiConfigResp where
  layout : BitVec 8
  result : BitVec 8
  deriving DecidableEq, Repr

/-- `cmtspeech_msg_encode_ssi_config_resp`: the layout of the samples, and the result. -/
def msgEncodeSsiConfigResp (layout result : BitVec 8) : Cmd where
  byte0 := headOctet ssiConfigResp domainControl
  byte1 := 0
  byte2 := layout &&& 0x7
  byte3 := result &&& 0x3

/-- `cmtspeech_msg_decode_ssi_config_resp`: the layout of the samples, and the result. -/
def msgDecodeSsiConfigResp (cmd : Cmd) : SsiConfigResp where
  layout := cmd.byte2 &&& 0x7
  result := cmd.byte3 &&& 0x3

/-- `cmtspeech_msg_encode_speech_config_resp`: the result takes the last octet as it is, uncut. -/
def msgEncodeSpeechConfigResp (result : BitVec 8) : Cmd where
  byte0 := headOctet speechConfigResp domainControl
  byte1 := 0
  byte2 := 0
  byte3 := result

/-- `cmtspeech_msg_decode_speech_config_resp`: of the result one bit is read. -/
def msgDecodeSpeechConfigResp (cmd : Cmd) : BitVec 8 := cmd.byte3 &&& 0x1

/-- `cmtspeech_msg_encode_reset_conn_resp`, a message with nothing but its type. -/
def msgEncodeResetConnResp : Cmd where
  byte0 := headOctet resetConnResp domainControl
  byte1 := 0
  byte2 := 0
  byte3 := 0

/-- `cmtspeech_msg_encode_reset_conn_req`, a message with nothing but its type. -/
def msgEncodeResetConnReq : Cmd where
  byte0 := headOctet resetConnReq domainControl
  byte1 := 0
  byte2 := 0
  byte3 := 0

/-- The fields of a `TEST_RAMP_PING`: its domain, that of the answer, and the ramp. -/
structure TestRampPing where
  domain : BitVec 8
  replydomain : BitVec 8
  rampstart : BitVec 8
  ramplen : BitVec 8
  deriving DecidableEq, Repr

/-- `cmtspeech_msg_encode_test_ramp_ping`: the domain goes into the first octet uncut. -/
def msgEncodeTestRampPing (p : TestRampPing) : Cmd where
  byte0 := BitVec.ofNat 8 (testRampPing <<< 4) ||| p.domain
  byte1 := p.replydomain &&& 0xf
  byte2 := p.rampstart
  byte3 := p.ramplen

/-- `cmtspeech_msg_decode_test_ramp_ping`: both domains and the ramp are read. -/
def msgDecodeTestRampPing (cmd : Cmd) : TestRampPing where
  domain := cmd.byte0 &&& 0xf
  replydomain := cmd.byte1 &&& 0xf
  rampstart := cmd.byte2
  ramplen := cmd.byte3

/-! ### Types and domains of the messages the library sends -/

/-- The type of a control message is the upper half of its first octet. -/
theorem msgGetType_of_byte0 {cmd : Cmd} {t : ℕ} (h : cmd.byte0 = headOctet t domainControl)
    (ht : t < 16) : msgGetType cmd = t := by
  rw [msgGetType, h]
  interval_cases t <;> decide

/-- The domain of a control message is the lower half of its first octet. -/
theorem msgGetDomain_of_byte0 {cmd : Cmd} {t : ℕ} (h : cmd.byte0 = headOctet t domainControl)
    (ht : t < 16) : msgGetDomain cmd = domainControl := by
  rw [msgGetDomain, h]
  interval_cases t <;> decide

@[simp] theorem msgGetType_newTimingConfigReq :
    msgGetType msgEncodeNewTimingConfigReq = newTimingConfigReq :=
  msgGetType_of_byte0 rfl (by decide)

@[simp] theorem msgGetDomain_newTimingConfigReq :
    msgGetDomain msgEncodeNewTimingConfigReq = domainControl :=
  msgGetDomain_of_byte0 rfl (by decide)

@[simp] theorem msgGetType_ssiConfigReq (l v s : BitVec 8) :
    msgGetType (msgEncodeSsiConfigReq l v s) = ssiConfigReq :=
  msgGetType_of_byte0 rfl (by decide)

@[simp] theorem msgGetDomain_ssiConfigReq (l v s : BitVec 8) :
    msgGetDomain (msgEncodeSsiConfigReq l v s) = domainControl :=
  msgGetDomain_of_byte0 rfl (by decide)

@[simp] theorem msgGetType_speechConfigResp (r : BitVec 8) :
    msgGetType (msgEncodeSpeechConfigResp r) = speechConfigResp :=
  msgGetType_of_byte0 rfl (by decide)

@[simp] theorem msgGetDomain_speechConfigResp (r : BitVec 8) :
    msgGetDomain (msgEncodeSpeechConfigResp r) = domainControl :=
  msgGetDomain_of_byte0 rfl (by decide)

@[simp] theorem msgGetType_resetConnReq : msgGetType msgEncodeResetConnReq = resetConnReq :=
  msgGetType_of_byte0 rfl (by decide)

@[simp] theorem msgGetDomain_resetConnReq :
    msgGetDomain msgEncodeResetConnReq = domainControl :=
  msgGetDomain_of_byte0 rfl (by decide)

@[simp] theorem msgGetType_resetConnResp :
    msgGetType msgEncodeResetConnResp = resetConnResp :=
  msgGetType_of_byte0 rfl (by decide)

@[simp] theorem msgGetDomain_resetConnResp :
    msgGetDomain msgEncodeResetConnResp = domainControl :=
  msgGetDomain_of_byte0 rfl (by decide)

/-- The state bit of an `SSI_CONFIG_REQ` survives the wire. -/
@[simp] theorem msgDecodeSsiConfigReq_state (l v : BitVec 8) (b : Bool) :
    (msgDecodeSsiConfigReq (msgEncodeSsiConfigReq l v (if b then 1 else 0))).state =
      if b then 1 else 0 := by
  ext i hi
  simp only [msgDecodeSsiConfigReq, msgEncodeSsiConfigReq]
  cases b <;> rcases i with _ | i <;> simp

end CmtSpeech
