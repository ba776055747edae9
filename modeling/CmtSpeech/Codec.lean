import CmtSpeech.Lib.BitField
import CmtSpeech.Msgs

/-!
# The message formats

The protocol lays a message out as fields of one 32-bit word; the encoders and decoders
assemble it octet by octet, with fields that cross the octets.  Here each encoder is
shown to put its arguments into the fields of the word, each decoder to read them from
there, and the two are composed.

## Main results

* `word_msgEncodeSpeechConfigReq` and the like — what an encoder puts where.
* `msgDecodeSpeechConfigReq_eq` and the like — what a decoder reads where.
* `decode_encode` — decoding what has been encoded.
* `dlDataHeader_roundTrip_iff` — the downlink header, whose encoder and decoder have the
  codec sample rate in different places.
-/

namespace CmtSpeech

open BitField

/-! ### The word of a message -/

/-- The bits of a message, octet by octet: the last octet is the lowest, as the modem reads the
word. -/
theorem Cmd.getElem_word (cmd : Cmd) {i : ℕ} (hi : i < 32) :
    cmd.word[i] =
      if i < 8 then cmd.byte3.getLsbD i
      else if i < 16 then cmd.byte2.getLsbD (i - 8)
      else if i < 24 then cmd.byte1.getLsbD (i - 16)
      else cmd.byte0.getLsbD (i - 24) := by
  rw [← BitVec.getLsbD_eq_getElem, Cmd.word,
    BitVec.getLsbD_append, BitVec.getLsbD_append, BitVec.getLsbD_append]
  grind

/-- A message is determined by the bits of its word. -/
theorem Cmd.word_eq_of_bits {cmd : Cmd} {w : BitVec 32}
    (h : ∀ i (hi : i < 32), cmd.word[i] = w.getLsbD i) : cmd.word = w := by
  ext i hi
  rw [h i hi, BitVec.getLsbD_eq_getElem]

def typeField : BitField := ⟨28, 4⟩
def domainField : BitField := ⟨24, 4⟩

/-- The word of a control message without fields. -/
def headWord (type : ℕ) : BitVec 32 :=
  typeField.put (BitVec.ofNat 4 type) (domainField.put (BitVec.ofNat 4 domainControl) 0)

theorem msgGetType_eq (cmd : Cmd) : msgGetType cmd = typeField.get cmd.word := by
  have heq : cmd.byte0 >>> 4 = BitVec.ofNat 8 (typeField.get cmd.word) := by
    rw [eq_ofNat_get_iff]
    intro i hi
    interval_cases i <;> simp [typeField, Cmd.getElem_word]
  rw [msgGetType, heq, BitVec.toNat_ofNat, Nat.mod_eq_of_lt]
  exact lt_of_lt_of_le (BitVec.isLt _) (by decide)

theorem msgGetDomain_eq (cmd : Cmd) : msgGetDomain cmd = domainField.get cmd.word := by
  have heq : cmd.byte0 &&& 0xf = BitVec.ofNat 8 (domainField.get cmd.word) := by
    rw [eq_ofNat_get_iff]
    intro i hi
    interval_cases i <;> simp [domainField, Cmd.getElem_word]
  rw [msgGetDomain, heq, BitVec.toNat_ofNat, Nat.mod_eq_of_lt]
  exact lt_of_lt_of_le (BitVec.isLt _) (by decide)

/-! ### `SPEECH_CONFIG_REQ` -/

namespace SpeechConfigReq

def speechDataStreamField : BitField := ⟨11, 1⟩
def callUserConnectingIndField : BitField := ⟨10, 1⟩
def codecInfoField : BitField := ⟨6, 4⟩
def cellularInfoField : BitField := ⟨4, 2⟩
def sampleRateField : BitField := ⟨2, 2⟩
def dataFormatField : BitField := ⟨0, 2⟩

/-- What the format keeps of the arguments. -/
def wire (r : SpeechConfigReq) : SpeechConfigReq where
  speechDataStream := lowBits 1 r.speechDataStream
  callUserConnectingInd := lowBits 1 r.callUserConnectingInd
  codecInfo := lowBits 4 r.codecInfo
  cellularInfo := lowBits 2 r.cellularInfo
  sampleRate := lowBits 2 r.sampleRate
  dataFormat := lowBits 2 r.dataFormat

end SpeechConfigReq

section
open SpeechConfigReq

theorem word_msgEncodeSpeechConfigReq (r : SpeechConfigReq) :
    (msgEncodeSpeechConfigReq r).word =
      speechDataStreamField.put r.speechDataStream
        (callUserConnectingIndField.put r.callUserConnectingInd
          (codecInfoField.put r.codecInfo
            (cellularInfoField.put r.cellularInfo
              (sampleRateField.put r.sampleRate
                (dataFormatField.put r.dataFormat (headWord speechConfigReq)))))) := by
  apply Cmd.word_eq_of_bits
  intro i hi
  simp only [getLsbD_put _ _ _ hi, Cmd.getElem_word, headWord]
  interval_cases i <;>
    simp [speechDataStreamField, callUserConnectingIndField, codecInfoField, cellularInfoField,
      sampleRateField, dataFormatField, typeField, domainField, msgEncodeSpeechConfigReq,
      headOctet, speechConfigReq]

theorem msgDecodeSpeechConfigReq_eq (cmd : Cmd) :
    msgDecodeSpeechConfigReq cmd =
      { speechDataStream := .ofNat 8 (speechDataStreamField.get cmd.word)
        callUserConnectingInd := .ofNat 8 (callUserConnectingIndField.get cmd.word)
        codecInfo := .ofNat 8 (codecInfoField.get cmd.word)
        cellularInfo := .ofNat 8 (cellularInfoField.get cmd.word)
        sampleRate := .ofNat 8 (sampleRateField.get cmd.word)
        dataFormat := .ofNat 8 (dataFormatField.get cmd.word) } := by
  rw [msgDecodeSpeechConfigReq, SpeechConfigReq.mk.injEq]
  refine ⟨?_, ?_, ?_, ?_, ?_, ?_⟩ <;>
  · rw [eq_ofNat_get_iff]
    intro i hi
    interval_cases i <;>
      simp [speechDataStreamField, callUserConnectingIndField, codecInfoField,
        cellularInfoField, sampleRateField, dataFormatField, Cmd.getElem_word]

theorem msgDecode_msgEncodeSpeechConfigReq (r : SpeechConfigReq) :
    msgDecodeSpeechConfigReq (msgEncodeSpeechConfigReq r) = r.wire := by
  rw [msgDecodeSpeechConfigReq_eq, word_msgEncodeSpeechConfigReq]
  simp (disch := decide) only [get_put, get_put_of_disjoint]
  rfl

end

/-! ### `TIMING_CONFIG_NTF` -/

namespace TimingConfigNtf

def msecField : BitField := ⟨10, 9⟩
def usecField : BitField := ⟨0, 10⟩

end TimingConfigNtf

section
open TimingConfigNtf

theorem word_msgEncodeTimingConfigNtf (msec usec : BitVec 16) :
    (msgEncodeTimingConfigNtf msec usec).word =
      msecField.put msec (usecField.put usec (headWord timingConfigNtf)) := by
  apply Cmd.word_eq_of_bits
  intro i hi
  simp only [getLsbD_put _ _ _ hi, Cmd.getElem_word, headWord]
  interval_cases i <;>
    simp [msecField, usecField, typeField, domainField, msgEncodeTimingConfigNtf, headOctet,
      timingConfigNtf]

theorem msgDecodeTimingConfigNtf_eq (cmd : Cmd) :
    msgDecodeTimingConfigNtf cmd =
      (.ofNat 16 (msecField.get cmd.word), .ofNat 16 (usecField.get cmd.word)) := by
  rw [msgDecodeTimingConfigNtf, Prod.mk.injEq]
  refine ⟨?_, ?_⟩ <;>
  · rw [eq_ofNat_get_iff]
    intro i hi
    interval_cases i <;> simp [msecField, usecField, Cmd.getElem_word]

theorem msgDecode_msgEncodeTimingConfigNtf (msec usec : BitVec 16) :
    msgDecodeTimingConfigNtf (msgEncodeTimingConfigNtf msec usec) =
      (lowBits 9 msec, lowBits 10 usec) := by
  rw [msgDecodeTimingConfigNtf_eq, word_msgEncodeTimingConfigNtf]
  simp (disch := decide) only [get_put, get_put_of_disjoint]
  rfl

end

/-! ### `SSI_CONFIG_REQ` and `SSI_CONFIG_RESP` -/

def layoutField : BitField := ⟨8, 3⟩

namespace SsiConfigReq

def versionField : BitField := ⟨1, 4⟩
def stateField : BitField := ⟨0, 1⟩

/-- What the format keeps of the arguments. -/
def wire (r : SsiConfigReq) : SsiConfigReq where
  layout := lowBits 3 r.layout
  version := lowBits 4 r.version
  state := lowBits 1 r.state

end SsiConfigReq

section
open SsiConfigReq

theorem word_msgEncodeSsiConfigReq (layout version state : BitVec 8) :
    (msgEncodeSsiConfigReq layout version state).word =
      layoutField.put layout
        (versionField.put version (stateField.put state (headWord ssiConfigReq))) := by
  apply Cmd.word_eq_of_bits
  intro i hi
  simp only [getLsbD_put _ _ _ hi, Cmd.getElem_word, headWord]
  interval_cases i <;>
    simp [layoutField, versionField, stateField, typeField, domainField,
      msgEncodeSsiConfigReq, headOctet, ssiConfigReq]

theorem msgDecodeSsiConfigReq_eq (cmd : Cmd) :
    msgDecodeSsiConfigReq cmd =
      { layout := .ofNat 8 (layoutField.get cmd.word)
        version := .ofNat 8 (versionField.get cmd.word)
        state := .ofNat 8 (stateField.get cmd.word) } := by
  rw [msgDecodeSsiConfigReq, SsiConfigReq.mk.injEq]
  refine ⟨?_, ?_, ?_⟩ <;>
  · rw [eq_ofNat_get_iff]
    intro i hi
    interval_cases i <;> simp [layoutField, versionField, stateField, Cmd.getElem_word]

theorem msgDecode_msgEncodeSsiConfigReq (r : SsiConfigReq) :
    msgDecodeSsiConfigReq (msgEncodeSsiConfigReq r.layout r.version r.state) = r.wire := by
  rw [msgDecodeSsiConfigReq_eq, word_msgEncodeSsiConfigReq]
  simp (disch := decide) only [get_put, get_put_of_disjoint]
  rfl

end

namespace SsiConfigResp

def resultField : BitField := ⟨0, 2⟩

/-- What the format keeps of the arguments. -/
def wire (r : SsiConfigResp) : SsiConfigResp where
  layout := lowBits 3 r.layout
  result := lowBits 2 r.result

end SsiConfigResp

section
open SsiConfigResp

theorem word_msgEncodeSsiConfigResp (layout result : BitVec 8) :
    (msgEncodeSsiConfigResp layout result).word =
      layoutField.put layout (resultField.put result (headWord ssiConfigResp)) := by
  apply Cmd.word_eq_of_bits
  intro i hi
  simp only [getLsbD_put _ _ _ hi, Cmd.getElem_word, headWord]
  interval_cases i <;>
    simp [layoutField, resultField, typeField, domainField, msgEncodeSsiConfigResp, headOctet,
      ssiConfigResp]

theorem msgDecodeSsiConfigResp_eq (cmd : Cmd) :
    msgDecodeSsiConfigResp cmd =
      { layout := .ofNat 8 (layoutField.get cmd.word)
        result := .ofNat 8 (resultField.get cmd.word) } := by
  rw [msgDecodeSsiConfigResp, SsiConfigResp.mk.injEq]
  refine ⟨?_, ?_⟩ <;>
  · rw [eq_ofNat_get_iff]
    intro i hi
    interval_cases i <;> simp [layoutField, resultField, Cmd.getElem_word]

theorem msgDecode_msgEncodeSsiConfigResp (r : SsiConfigResp) :
    msgDecodeSsiConfigResp (msgEncodeSsiConfigResp r.layout r.result) = r.wire := by
  rw [msgDecodeSsiConfigResp_eq, word_msgEncodeSsiConfigResp]
  simp (disch := decide) only [get_put, get_put_of_disjoint]
  rfl

end

/-! ### `SPEECH_CONFIG_RESP` -/

namespace SpeechConfigResp

def resultField : BitField := ⟨0, 1⟩
/-- The encoder stores all of its argument, the decoder reads the lowest bit. -/
def restField : BitField := ⟨1, 7⟩

end SpeechConfigResp

section
open SpeechConfigResp

theorem word_msgEncodeSpeechConfigResp (result : BitVec 8) :
    (msgEncodeSpeechConfigResp result).word =
      restField.put (result >>> 1) (resultField.put result (headWord speechConfigResp)) := by
  apply Cmd.word_eq_of_bits
  intro i hi
  simp only [getLsbD_put _ _ _ hi, Cmd.getElem_word, headWord]
  interval_cases i <;>
    simp [restField, resultField, typeField, domainField, msgEncodeSpeechConfigResp, headOctet,
      speechConfigResp]

theorem msgDecodeSpeechConfigResp_eq (cmd : Cmd) :
    msgDecodeSpeechConfigResp cmd = .ofNat 8 (resultField.get cmd.word) := by
  rw [eq_ofNat_get_iff]
  intro i hi
  interval_cases i <;> simp [resultField, msgDecodeSpeechConfigResp, Cmd.getElem_word]

theorem msgDecode_msgEncodeSpeechConfigResp (result : BitVec 8) :
    msgDecodeSpeechConfigResp (msgEncodeSpeechConfigResp result) = lowBits 1 result := by
  rw [msgDecodeSpeechConfigResp_eq, word_msgEncodeSpeechConfigResp]
  simp (disch := decide) only [get_put, get_put_of_disjoint]
  rfl

end

/-! ### `TEST_RAMP_PING` -/

namespace TestRampPing

def replydomainField : BitField := ⟨16, 4⟩
def rampstartField : BitField := ⟨8, 8⟩
def ramplenField : BitField := ⟨0, 8⟩

/-- What the format keeps of the arguments. -/
def wire (p : TestRampPing) : TestRampPing where
  domain := lowBits 4 p.domain
  replydomain := lowBits 4 p.replydomain
  rampstart := lowBits 8 p.rampstart
  ramplen := lowBits 8 p.ramplen

end TestRampPing

section
open TestRampPing

/-- The encoder does not cut the domain to its field, so it has to fit. -/
theorem word_msgEncodeTestRampPing {p : TestRampPing} (hp : p.domain.toNat < 16) :
    (msgEncodeTestRampPing p).word =
      replydomainField.put p.replydomain
        (rampstartField.put p.rampstart
          (ramplenField.put p.ramplen
            (domainField.put p.domain (headWord testRampPing)))) := by
  have hbit : ∀ i (hi : i < 8), 4 ≤ i → p.domain[i] = false := by
    intro i hi h4
    have hlt : p.domain.toNat < 2 ^ i := lt_of_lt_of_le hp (Nat.pow_le_pow_right two_pos h4)
    rw [← BitVec.getLsbD_eq_getElem]
    exact Nat.testBit_lt_two_pow hlt
  apply Cmd.word_eq_of_bits
  intro i hi
  simp only [getLsbD_put _ _ _ hi, Cmd.getElem_word, headWord]
  interval_cases i <;>
    simp [replydomainField, rampstartField, ramplenField, typeField, domainField,
      msgEncodeTestRampPing, testRampPing, hbit]

theorem msgDecodeTestRampPing_eq (cmd : Cmd) :
    msgDecodeTestRampPing cmd =
      { domain := .ofNat 8 (domainField.get cmd.word)
        replydomain := .ofNat 8 (replydomainField.get cmd.word)
        rampstart := .ofNat 8 (rampstartField.get cmd.word)
        ramplen := .ofNat 8 (ramplenField.get cmd.word) } := by
  rw [msgDecodeTestRampPing, TestRampPing.mk.injEq]
  refine ⟨?_, ?_, ?_, ?_⟩ <;>
  · rw [eq_ofNat_get_iff]
    intro i hi
    interval_cases i <;>
      simp [domainField, replydomainField, rampstartField, ramplenField, Cmd.getElem_word]

theorem msgDecode_msgEncodeTestRampPing {p : TestRampPing} (hp : p.domain.toNat < 16) :
    msgDecodeTestRampPing (msgEncodeTestRampPing p) = p.wire := by
  rw [msgDecodeTestRampPing_eq, word_msgEncodeTestRampPing hp]
  simp (disch := decide) only [get_put, get_put_of_disjoint]
  rfl

end

/-! ### The uplink data header -/

namespace UlDataHeader

def frameCounterField : BitField := ⟨16, 16⟩
def dataLengthField : BitField := ⟨4, 2⟩
def sampleRateField : BitField := ⟨2, 2⟩
def dataTypeField : BitField := ⟨0, 2⟩

/-- What the format keeps of the arguments. -/
def wire (h : UlDataHeader) : UlDataHeader where
  frameCounter := lowBits 16 h.frameCounter
  dataLength := lowBits 2 h.dataLength
  sampleRate := lowBits 2 h.sampleRate
  dataType := lowBits 2 h.dataType

end UlDataHeader

section
open UlDataHeader

theorem msgEncodeUlDataHeader_word {len : ℤ} (hlen : 4 ≤ len) (h : UlDataHeader) :
    ∃ buf, msgEncodeUlDataHeader len h = some buf ∧
      buf.word =
        frameCounterField.put h.frameCounter
          (dataLengthField.put h.dataLength
            (sampleRateField.put h.sampleRate (dataTypeField.put h.dataType 0))) := by
  rw [msgEncodeUlDataHeader, if_neg (by omega)]
  refine ⟨_, rfl, Cmd.word_eq_of_bits ?_⟩
  intro i hi
  simp only [getLsbD_put _ _ _ hi, Cmd.getElem_word]
  interval_cases i <;>
    simp [frameCounterField, dataLengthField, sampleRateField, dataTypeField]

theorem msgDecodeUlDataHeader_eq {len : ℤ} (hlen : 4 ≤ len) (buf : Cmd) :
    msgDecodeUlDataHeader len buf = some
      { frameCounter := .ofNat 16 (frameCounterField.get buf.word)
        dataLength := .ofNat 8 (dataLengthField.get buf.word)
        sampleRate := .ofNat 8 (sampleRateField.get buf.word)
        dataType := .ofNat 8 (dataTypeField.get buf.word) } := by
  rw [msgDecodeUlDataHeader, if_neg (by omega), Option.some.injEq, UlDataHeader.mk.injEq]
  refine ⟨?_, ?_, ?_, ?_⟩ <;>
  · rw [eq_ofNat_get_iff]
    intro i hi
    interval_cases i <;>
      simp [frameCounterField, dataLengthField, sampleRateField, dataTypeField,
        Cmd.getElem_word]

theorem msgDecode_msgEncodeUlDataHeader {len : ℤ} (hlen : 4 ≤ len) (h : UlDataHeader) :
    (msgEncodeUlDataHeader len h).bind (msgDecodeUlDataHeader len) = some h.wire := by
  obtain ⟨buf, hbuf, hword⟩ := msgEncodeUlDataHeader_word hlen h
  rw [hbuf, Option.bind_some, msgDecodeUlDataHeader_eq hlen, hword]
  simp (disch := decide) only [get_put, get_put_of_disjoint]
  rfl

end

/-! ### All messages -/

/-- The control messages there is an encoder for, with their types and domains.  A word is one of
these exactly if some encoder of the library makes it. -/
inductive EncodedControl : ℕ → ℕ → Cmd → Prop
  | speechConfigReq (r : SpeechConfigReq) :
    EncodedControl speechConfigReq domainControl (msgEncodeSpeechConfigReq r)
  | newTimingConfigReq :
    EncodedControl newTimingConfigReq domainControl msgEncodeNewTimingConfigReq
  | uplinkConfigNtf : EncodedControl uplinkConfigNtf domainControl msgEncodeUplinkConfigNtf
  | timingConfigNtf (msec usec : BitVec 16) :
    EncodedControl timingConfigNtf domainControl (msgEncodeTimingConfigNtf msec usec)
  | ssiConfigReq (layout version state : BitVec 8) :
    EncodedControl ssiConfigReq domainControl (msgEncodeSsiConfigReq layout version state)
  | ssiConfigResp (layout result : BitVec 8) :
    EncodedControl ssiConfigResp domainControl (msgEncodeSsiConfigResp layout result)
  | speechConfigResp (result : BitVec 8) :
    EncodedControl speechConfigResp domainControl (msgEncodeSpeechConfigResp result)
  | resetConnResp : EncodedControl resetConnResp domainControl msgEncodeResetConnResp
  | resetConnReq : EncodedControl resetConnReq domainControl msgEncodeResetConnReq
  | testRampPing (p : TestRampPing) (hp : p.domain.toNat < 16) :
    EncodedControl testRampPing p.domain.toNat (msgEncodeTestRampPing p)

/-- The head of a message keeps its type, as far as a type fits into four bits. -/
theorem typeField_headWord {type : ℕ} (ht : type < 16) : typeField.get (headWord type) = type := by
  rw [headWord, get_put _ (by decide), BitVec.toNat_ofNat]
  exact Nat.mod_eq_of_lt (lt_of_le_of_lt (Nat.mod_le _ _) ht) |>.trans (Nat.mod_eq_of_lt ht)

/-- The head of a message is in the control domain. -/
theorem domainField_headWord (type : ℕ) : domainField.get (headWord type) = domainControl := by
  rw [headWord, get_put_of_disjoint (by decide), get_put _ (by decide)]
  rfl

theorem EncodedControl.type_domain {type domain : ℕ} {cmd : Cmd}
    (h : EncodedControl type domain cmd) :
    msgGetType cmd = type ∧ msgGetDomain cmd = domain := by
  rw [msgGetType_eq, msgGetDomain_eq]
  cases h with
  | speechConfigReq r =>
    rw [word_msgEncodeSpeechConfigReq]
    simp (disch := decide) only [get_put_of_disjoint, typeField_headWord, domainField_headWord,
      and_self]
  | timingConfigNtf msec usec =>
    rw [word_msgEncodeTimingConfigNtf]
    simp (disch := decide) only [get_put_of_disjoint, typeField_headWord, domainField_headWord,
      and_self]
  | ssiConfigReq layout version state =>
    rw [word_msgEncodeSsiConfigReq]
    simp (disch := decide) only [get_put_of_disjoint, typeField_headWord, domainField_headWord,
      and_self]
  | ssiConfigResp layout result =>
    rw [word_msgEncodeSsiConfigResp]
    simp (disch := decide) only [get_put_of_disjoint, typeField_headWord, domainField_headWord,
      and_self]
  | speechConfigResp result =>
    rw [word_msgEncodeSpeechConfigResp]
    simp (disch := decide) only [get_put_of_disjoint, typeField_headWord, domainField_headWord,
      and_self]
  | newTimingConfigReq => decide
  | uplinkConfigNtf => decide
  | resetConnResp => decide
  | resetConnReq => decide
  | testRampPing p hp =>
    rw [word_msgEncodeTestRampPing hp]
    simp (disch := decide) only [get_put, get_put_of_disjoint, typeField_headWord, true_and]
    exact Nat.mod_eq_of_lt hp

/-- Decoding what has been encoded yields each argument cut to the width of its field,
and the type and domain of the message. -/
theorem decode_encode :
    (∀ r, msgDecodeSpeechConfigReq (msgEncodeSpeechConfigReq r) = r.wire) ∧
    (∀ msec usec, msgDecodeTimingConfigNtf (msgEncodeTimingConfigNtf msec usec) =
      (lowBits 9 msec, lowBits 10 usec)) ∧
    (∀ r : SsiConfigReq,
      msgDecodeSsiConfigReq (msgEncodeSsiConfigReq r.layout r.version r.state) = r.wire) ∧
    (∀ r : SsiConfigResp,
      msgDecodeSsiConfigResp (msgEncodeSsiConfigResp r.layout r.result) = r.wire) ∧
    (∀ result, msgDecodeSpeechConfigResp (msgEncodeSpeechConfigResp result) =
      lowBits 1 result) ∧
    (∀ p : TestRampPing, p.domain.toNat < 16 →
      msgDecodeTestRampPing (msgEncodeTestRampPing p) = p.wire) ∧
    (∀ (len : ℤ) (h : UlDataHeader), 4 ≤ len →
      (msgEncodeUlDataHeader len h).bind (msgDecodeUlDataHeader len) = some h.wire) ∧
    ∀ type domain cmd, EncodedControl type domain cmd →
      msgGetType cmd = type ∧ msgGetDomain cmd = domain := by
  refine ⟨msgDecode_msgEncodeSpeechConfigReq, msgDecode_msgEncodeTimingConfigNtf,
    msgDecode_msgEncodeSsiConfigReq, msgDecode_msgEncodeSsiConfigResp,
    msgDecode_msgEncodeSpeechConfigResp, ?_, ?_, ?_⟩
  · intro p hp
    exact msgDecode_msgEncodeTestRampPing hp
  · intro len h hlen
    exact msgDecode_msgEncodeUlDataHeader hlen h
  · intro type domain cmd h
    exact h.type_domain

/-- A ping to the data domain, with a reply domain that does not fit. -/
theorem decode_encode_testRampPing :
    msgDecodeTestRampPing (msgEncodeTestRampPing ⟨2, 0x12, 7, 200⟩) = ⟨2, 2, 7, 200⟩ :=
  decode_encode.2.2.2.2.2.1 ⟨2, 0x12, 7, 200⟩ (by decide)

/-! ### The downlink data header -/

namespace DlDataHeader

def frameCounterField : BitField := ⟨16, 16⟩
def spcFlagsField : BitField := ⟨6, 7⟩
def dataLengthField : BitField := ⟨4, 2⟩
def sampleRateField : BitField := ⟨2, 2⟩
def dataTypeField : BitField := ⟨0, 2⟩
/-- Where the encoder puts the codec sample rate: its upper bit falls off the octet. -/
def codecSampleRateSent : BitField := ⟨15, 1⟩
/-- Where the decoder reads the codec sample rate. -/
def codecSampleRateRead : BitField := ⟨13, 2⟩

/-- The values the format has room for, field by field.  The encoder cuts off what is beyond, so a
header outside this range does not come back from the wire. -/
structure InRange (h : DlDataHeader) : Prop where
  spcFlags : h.spcFlags.toNat < 2 ^ 7
  dataLength : h.dataLength.toNat < 2 ^ 2
  sampleRate : h.sampleRate.toNat < 2 ^ 2
  codecSampleRate : h.codecSampleRate.toNat < 2 ^ 2
  dataType : h.dataType.toNat < 2 ^ 2

end DlDataHeader

section
open DlDataHeader

theorem msgEncodeDlDataHeaderV5_word {len : ℤ} (hlen : 4 ≤ len) (h : DlDataHeader) :
    ∃ buf, msgEncodeDlDataHeaderV5 len h = some buf ∧
      buf.word =
        frameCounterField.put h.frameCounter
          (codecSampleRateSent.put h.codecSampleRate
            (spcFlagsField.put h.spcFlags
              (dataLengthField.put h.dataLength
                (sampleRateField.put h.sampleRate (dataTypeField.put h.dataType 0))))) := by
  rw [msgEncodeDlDataHeaderV5, if_neg (by omega)]
  refine ⟨_, rfl, Cmd.word_eq_of_bits ?_⟩
  intro i hi
  simp only [getLsbD_put _ _ _ hi, Cmd.getElem_word]
  interval_cases i <;>
    simp [frameCounterField, spcFlagsField, dataLengthField, sampleRateField, dataTypeField,
      codecSampleRateSent]

theorem msgDecodeDlDataHeaderV5_eq {len : ℤ} (hlen : 4 ≤ len) (buf : Cmd) :
    msgDecodeDlDataHeaderV5 len buf = some
      { frameCounter := .ofNat 16 (frameCounterField.get buf.word)
        spcFlags := .ofNat 8 (spcFlagsField.get buf.word)
        dataLength := .ofNat 8 (dataLengthField.get buf.word)
        sampleRate := .ofNat 8 (sampleRateField.get buf.word)
        codecSampleRate := .ofNat 8 (codecSampleRateRead.get buf.word)
        dataType := .ofNat 8 (dataTypeField.get buf.word) } := by
  rw [msgDecodeDlDataHeaderV5, if_neg (by omega), Option.some.injEq, DlDataHeader.mk.injEq]
  refine ⟨?_, ?_, ?_, ?_, ?_, ?_⟩ <;>
  · rw [eq_ofNat_get_iff]
    intro i hi
    interval_cases i <;>
      simp [frameCounterField, spcFlagsField, dataLengthField, sampleRateField, dataTypeField,
        codecSampleRateRead, Cmd.getElem_word]

/-- Every field comes back but the codec sample rate, which is read as none. -/
theorem msgDecode_msgEncodeDlDataHeaderV5 {len : ℤ} (hlen : 4 ≤ len) {h : DlDataHeader}
    (hr : h.InRange) :
    (msgEncodeDlDataHeaderV5 len h).bind (msgDecodeDlDataHeaderV5 len) =
      some { h with codecSampleRate := sampleRateNone } := by
  obtain ⟨buf, hbuf, hword⟩ := msgEncodeDlDataHeaderV5_word hlen h
  rw [hbuf, Option.bind_some, msgDecodeDlDataHeaderV5_eq hlen, hword]
  simp (disch := decide) only [get_put, get_put_of_disjoint]
  rw [Option.some.injEq, DlDataHeader.mk.injEq]
  exact ⟨lowBits_of_lt h.frameCounter.isLt, lowBits_of_lt hr.spcFlags,
    lowBits_of_lt hr.dataLength, lowBits_of_lt hr.sampleRate, by decide,
    lowBits_of_lt hr.dataType⟩

/-- Encoding what has been decoded moves the lower codec rate bit into the reserved one. -/
theorem msgEncode_msgDecodeDlDataHeaderV5 {len : ℤ} (hlen : 4 ≤ len) (buf : Cmd) :
    (msgDecodeDlDataHeaderV5 len buf).bind (msgEncodeDlDataHeaderV5 len) =
      some { buf with byte2 := (buf.byte2 >>> 5) <<< 7 ||| (buf.byte2 &&& 0x1f) } := by
  have h4 : ¬ len < 4 := by omega
  rw [msgDecodeDlDataHeaderV5, if_neg h4, Option.bind_some, msgEncodeDlDataHeaderV5, if_neg h4,
    Option.some.injEq, Cmd.mk.injEq]
  refine ⟨?_, ?_, ?_, ?_⟩ <;>
  · ext i hi
    interval_cases i <;> simp

set_option maxRecDepth 8192 in
/-- The third octet comes back iff its codec sample rate is none. -/
theorem byte2_eq_iff :
    ∀ b : BitVec 8, b.getLsbD 7 = false →
      ((b >>> 5) <<< 7 ||| (b &&& 0x1f) = b ↔ (b >>> 5) &&& 0x3 = sampleRateNone) := by
  decide

/-- The two directions of the downlink header codec: both hold exactly for the headers
without a codec sample rate. -/
theorem dlDataHeader_roundTrip_iff {len : ℤ} (hlen : 4 ≤ len) :
    (∀ h : DlDataHeader, h.InRange →
      ((msgEncodeDlDataHeaderV5 len h).bind (msgDecodeDlDataHeaderV5 len) = some h ↔
        h.codecSampleRate = sampleRateNone)) ∧
    ∀ buf : Cmd, buf.byte2.getLsbD 7 = false →
      ((msgDecodeDlDataHeaderV5 len buf).bind (msgEncodeDlDataHeaderV5 len) = some buf ↔
        (buf.byte2 >>> 5) &&& 0x3 = sampleRateNone) := by
  constructor
  · intro h hr
    rw [msgDecode_msgEncodeDlDataHeaderV5 hlen hr, Option.some.injEq]
    cases h
    simp only [DlDataHeader.mk.injEq, true_and, and_true]
    exact eq_comm
  · intro buf h7
    rw [msgEncode_msgDecodeDlDataHeaderV5 hlen, Option.some.injEq, ← byte2_eq_iff buf.byte2 h7]
    cases buf
    simp only [Cmd.mk.injEq, true_and, and_true]

/-- A header without a codec sample rate comes back. -/
theorem dlDataHeader_roundTrip_none :
    (msgEncodeDlDataHeaderV5 4 ⟨0x1234, 0x55, 2, 1, 0, 2⟩).bind (msgDecodeDlDataHeaderV5 4) =
      some ⟨0x1234, 0x55, 2, 1, 0, 2⟩ :=
  ((@dlDataHeader_roundTrip_iff 4 (by decide)).1 _
    ⟨by decide, by decide, by decide, by decide, by decide⟩).mpr rfl

/-- With a codec rate of 16 kHz it does not, nor does an octet that holds 8 kHz where the
decoder reads it. -/
theorem dlDataHeader_roundTrip_lost :
    ¬ ((∀ h : DlDataHeader, h.InRange →
        (msgEncodeDlDataHeaderV5 4 h).bind (msgDecodeDlDataHeaderV5 4) = some h) ∧
      ∀ buf : Cmd, buf.byte2.getLsbD 7 = false →
        (msgDecodeDlDataHeaderV5 4 buf).bind (msgEncodeDlDataHeaderV5 4) = some buf) ∧
    (msgEncodeDlDataHeaderV5 4 ⟨0x1234, 0x55, 2, 1, sampleRate16khz, 2⟩).bind
      (msgDecodeDlDataHeaderV5 4) = some ⟨0x1234, 0x55, 2, 1, sampleRateNone, 2⟩ ∧
    (msgDecodeDlDataHeaderV5 4 ⟨0, 0, 0x20, 0⟩).bind (msgEncodeDlDataHeaderV5 4) =
      some ⟨0, 0, 0x80, 0⟩ := by
  refine ⟨?_, by decide, by decide⟩
  rintro ⟨h, -⟩
  exact absurd (h ⟨0x1234, 0x55, 2, 1, sampleRate16khz, 2⟩
    ⟨by decide, by decide, by decide, by decide, by decide⟩) (by decide)

end

end CmtSpeech
