import PromptRelay.Dispatch
import PromptRelay.Framer
import PromptRelay.Transcript.Event
import PromptRelay.Utf8.Decoder

/-!
A session with one client. It is a machine that is always about to do one thing: to read, to call
the backend, to write, to flush, or nothing more. It goes on with what came of that, and records
the steps it takes. Nothing is read while a request waits for its line.
-/

namespace PromptRelay

inductive SessionState where
  | accumulating
  | dispatching
  | closed
  deriving DecidableEq, Repr

def SessionState.name : SessionState → String
  | accumulating => "accumulating"
  | dispatching => "dispatching"
  | closed => "closed"

inductive SessionError where
  | io (cause : String)
  | backend (fault : Fault)
  deriving DecidableEq, Repr

namespace SessionError

def message : SessionError → String
  | io cause => "Connection I/O error: " ++ cause
  | backend fault => "Backend fault: " ++ fault.message

def isFatal : SessionError → Bool
  | io _ => false
  | backend _ => true

end SessionError

inductive Step where
  | read (size : Nat)
  | echo (text : String)
  | state (before after : SessionState)
  | preview (query : String)
  | call (c : Call)
  | event (e : Event)
  | write (bytes : List UInt8)
  | flush
  | droppedBytes (size : Nat)
  | droppedCharacter
  deriving DecidableEq, Repr

/-- What a session is about to do. `rest` are frames that came with the same read. -/
inductive Phase where
  | opening
  | reading
  | calling (r : Request) (rest : List Frame)
  | writing (line : Line) (left : List UInt8) (rest : List Frame)
  | flushing (line : Line) (rest : List Frame)
  | ended (result : Except SessionError Summary)

inductive Signal where
  | opened
  | received (bytes : List UInt8)
  | answered (outcome : Outcome) (elapsedMs : Nat)
  | taken (size : Nat)
  | flushed
  | broken (cause : String)

structure Session where
  peer : String
  decoder : Utf8.Decoder := {}
  framer : Framer := {}
  summary : Summary := {}
  phase : Phase := .opening

namespace Session

def previewSize : Nat := 100

def handle (s : Session) : List Frame → List Step × Session
  | [] => ([], { s with phase := .reading })
  | .discarded :: rest =>
    let s := { s with summary.discarded := s.summary.discarded + 1 }
    let (steps, s) := s.handle rest
    (.event (.discarded s.peer) :: steps, s)
  | .request r :: rest =>
    ([.state .accumulating .dispatching, .preview (Text.truncate previewSize r.query),
      .event (.request s.peer r.query)], { s with phase := .calling r rest })

def close (s : Session) : List Step × Session :=
  let unterminated := if s.framer.isPending then Utf8.size s.framer.buffered else 0
  let summary := { s.summary with unterminatedBytes := unterminated }
  ([.read 0, .state .accumulating .closed]
    ++ (if s.framer.isPending then [.droppedBytes unterminated] else [])
    ++ (if s.decoder.isWaiting then [.droppedCharacter] else [])
    ++ [.event (.sessionClosed s.peer summary)],
   { s with summary := summary, phase := .ended (.ok summary) })

def receive (s : Session) (bytes : List UInt8) : List Step × Session :=
  let (text, decoder) := s.decoder.feed bytes
  let (frames, framer) := s.framer.push text
  let s := { s with
    decoder := decoder
    framer := framer
    summary.bytesRead := s.summary.bytesRead + bytes.length }
  let (steps, s) := s.handle frames
  let echo := if text.isEmpty then [] else [.echo (String.ofList text)]
  (.read bytes.length :: (echo ++ steps), s)

def replyOf (kind : BackendKind) : Outcome → Except Fault Reply
  | .ok reply => .ok reply
  | .error fault => match kind.policy with
    | .failFast => .error fault
    | .replyAndContinue => .ok (.failure fault.message)

def replyEvent (peer : String) (line : Line) (elapsed : Nat) : Reply → Event
  | .text _ => .reply peer line.text elapsed
  | .failure cause => .failure peer cause elapsed

def answer (s : Session) (kind : BackendKind) (rest : List Frame) (outcome : Outcome)
    (elapsed : Nat) : List Step × Session :=
  match replyOf kind outcome with
  | .error fault =>
    ([.event (.fault s.peer fault.message)], { s with phase := .ended (.error (.backend fault)) })
  | .ok reply =>
    let line := reply.line
    ([.event (replyEvent s.peer line elapsed reply)],
     { s with phase := .writing line line.bytes rest })

def sent (s : Session) (line : Line) (rest : List Frame) : List Step × Session :=
  let s := { s with
    summary.answered := s.summary.answered + 1
    summary.failures := s.summary.failures + (if line.isFailure then 1 else 0) }
  let (steps, s) := s.handle rest
  (.flush :: .state .dispatching .accumulating :: steps, s)

def fail (s : Session) (cause : String) : Session :=
  { s with phase := .ended (.error (.io cause)) }

def resume (d : Dispatch) (kind : BackendKind) (s : Session) (signal : Signal) :
    List Step × Session :=
  match s.phase, signal with
  | .opening, .opened =>
    ([.event (.sessionOpened s.peer)], { s with phase := .reading })
  | .reading, .received [] => s.close
  | .reading, .received bytes => s.receive bytes
  | .calling r rest, .answered outcome elapsed =>
    let (steps, s) := s.answer kind rest outcome elapsed
    (.call (d.call r) :: steps, s)
  | .writing line left rest, .taken n =>
    let s := if n = 0 then s.fail "write zero"
      else if left.length ≤ n then { s with phase := .flushing line rest }
      else { s with phase := .writing line (left.drop n) rest }
    ([.write (left.take n)], s)
  | .flushing line rest, .flushed => s.sent line rest
  | .reading, .broken cause => ([], s.fail cause)
  | .writing _ _ _, .broken cause => ([], s.fail cause)
  | .flushing _ _, .broken cause => ([], s.fail cause)
  | _, _ => ([], s)

end Session

end PromptRelay
