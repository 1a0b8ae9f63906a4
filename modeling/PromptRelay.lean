import PromptRelay.Listener.Concurrent
import PromptRelay.Listener.Sequential
import PromptRelay.Main
import PromptRelay.Proofs.Session.BrokenConnection
import PromptRelay.Proofs.Session.FailureCount
import PromptRelay.Proofs.Session.FaultPolicy
import PromptRelay.Proofs.Session.Accounting
import PromptRelay.Proofs.Session.Timeouts
import PromptRelay.Proofs.Line.Ascii
import PromptRelay.Proofs.Session.AsciiOutput
import PromptRelay.Proofs.Listener.Faults
import PromptRelay.Proofs.Listener.Attendance
import PromptRelay.Proofs.Listener.Succession
import PromptRelay.Proofs.Listener.Isolation
import PromptRelay.Proofs.Transcript.Histories
import PromptRelay.Proofs.Config.FoundFiles
import PromptRelay.Proofs.Framer.ByteOffsets
import PromptRelay.Proofs.Framer.Resumption
import PromptRelay.Proofs.Framer.Retention
import PromptRelay.Proofs.Line.NormalForm
import PromptRelay.Proofs.Utf8.LineNoise
import PromptRelay.Proofs.Line.BreakStyles
import PromptRelay.Proofs.ChatService.Answers
import PromptRelay.Proofs.ChatService.RequestBody
import PromptRelay.Proofs.ChatService.KeySecrecy
import PromptRelay.Proofs.Request.Provenance
import PromptRelay.Proofs.Transcript.Continuation
import PromptRelay.Proofs.Config.Shown
import PromptRelay.Proofs.Line.Causes
import PromptRelay.Proofs.Text.Truncation
