import PromptRelay.Session.Run
import PromptRelay.Text.Quoted

namespace PromptRelay

inductive ModelError where
  | load (path cause : String)
  | context (cause : String)
  | promptTooLong (prompt context : Nat)
  | generation (cause : String)
  | unavailable
  deriving DecidableEq, Repr

def ModelError.message : ModelError → String
  | load path cause => "Failed to load model " ++ path ++ ": " ++ cause
  | context cause => "Failed to create inference context: " ++ cause
  | promptTooLong prompt size =>
    "Prompt of " ++ toString prompt ++ " tokens does not fit a " ++ toString size
      ++ "-token context"
  | generation cause => "Generation failed: " ++ cause
  | unavailable =>
    "Local backend is not available in this build (enable the `llama` feature)"

inductive Generation where
  | text (raw : String)
  | failed (e : ModelError)
  | crashed (message : Option String)
  deriving DecidableEq, Repr

structure Model where
  description : String
  generate : List Call → Call → Generation
  worker : Nat → String := toString

namespace Model

def budget (prompt context maxTokens : Nat) : Except ModelError Nat :=
  if prompt = 0 then .error (.generation "empty prompt")
  else if context ≤ prompt then .error (.promptTooLong prompt context)
  else .ok (min maxTokens (context - prompt))

def outcome (worker : String) : Generation → Outcome
  | .text raw => .ok (.text raw)
  | .failed e => .error (.model e.message)
  | .crashed none => .error (.workerCrashed ("task " ++ worker ++ " panicked"))
  | .crashed (some message) =>
    .error (.workerCrashed
      ("task " ++ worker ++ " panicked with message " ++ Text.quoted message))

def backend (m : Model) : Backend where
  kind := .onDevice
  description := m.description
  answer earlier c := ⟨0, outcome (m.worker (earlier.length + 1)) (m.generate earlier c)⟩

end Model

end PromptRelay
