import PromptRelay.Line
import PromptRelay.Request
import PromptRelay.Sampling
import PromptRelay.Unicode.Lowercase

namespace PromptRelay

inductive BackendKind where
  | onDevice
  | remote
  deriving DecidableEq, Repr

inductive FaultPolicy where
  | failFast
  | replyAndContinue
  deriving DecidableEq, Repr

namespace BackendKind

/-- What is broken on the device stays broken; a service may recover. -/
def policy : BackendKind → FaultPolicy
  | onDevice => .failFast
  | remote => .replyAndContinue

def name : BackendKind → String
  | onDevice => "local"
  | remote => "remote"

def ofText (s : String) : Except String BackendKind :=
  let word := String.ofList (Unicode.lower (Unicode.trim s.toList))
  if word = "local" then .ok .onDevice
  else if word = "remote" ∨ word = "cloud" then .ok .remote
  else .error word

def unknownMessage (word : String) : String :=
  "unknown backend kind: " ++ word

theorem ofText_name (k : BackendKind) : ofText k.name = .ok k := by
  cases k <;> rfl

end BackendKind

structure Call where
  query : String
  systemPrompt : String
  sampling : Sampling
  deriving DecidableEq, Repr

inductive Reply where
  | text (raw : String)
  | failure (cause : String)
  deriving DecidableEq, Repr

namespace Reply

def isFailure : Reply → Bool
  | text _ => false
  | failure _ => true

def line : Reply → Line
  | text raw => .ofReply raw
  | failure cause => .ofFailure cause

end Reply

inductive Fault where
  | model (cause : String)
  | workerCrashed (cause : String)
  deriving DecidableEq, Repr

def Fault.message : Fault → String
  | model cause => "Model failure: " ++ cause
  | workerCrashed cause => "Inference worker crashed: " ++ cause

abbrev Outcome := Except Fault Reply

end PromptRelay
