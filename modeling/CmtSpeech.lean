import CmtSpeech.Agreement
import CmtSpeech.BufConfig
import CmtSpeech.CallLink
import CmtSpeech.CallServer
import CmtSpeech.Codec
import CmtSpeech.DataPath
import CmtSpeech.DeferredReply
import CmtSpeech.DlFrame
import CmtSpeech.DlStream
import CmtSpeech.DummyBackend
import CmtSpeech.DummyClose
import CmtSpeech.DummyExchange
import CmtSpeech.DummyFrames
import CmtSpeech.DummyOrder
import CmtSpeech.DummyQueue
import CmtSpeech.DummyRefinement
import CmtSpeech.DummySession
import CmtSpeech.DummyTone
import CmtSpeech.EventRing
import CmtSpeech.FrameCounter
import CmtSpeech.FrameLayout
import CmtSpeech.Held
import CmtSpeech.Inbound
import CmtSpeech.IoErrors
import CmtSpeech.LinkUpdown
import CmtSpeech.OfonoStreams
import CmtSpeech.OfonoTest
import CmtSpeech.OverrunMark
import CmtSpeech.Ownership
import CmtSpeech.PeerReset
import CmtSpeech.PollTimer
import CmtSpeech.RampRequest
import CmtSpeech.ReplyOnce
import CmtSpeech.RingSpace
import CmtSpeech.SampleLayout
import CmtSpeech.SampleSwap
import CmtSpeech.SendFailure
import CmtSpeech.SlotAddress
import CmtSpeech.SlotLookup
import CmtSpeech.SpeechConfig
import CmtSpeech.SsiLink
import CmtSpeech.StateReports
import CmtSpeech.StreamFormat
import CmtSpeech.SwapBuffer
import CmtSpeech.Transitions
import CmtSpeech.UplinkPause
import CmtSpeech.Waiting
import CmtSpeech.WakelineLeak
