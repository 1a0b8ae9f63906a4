import PromptRelay.Json

namespace PromptRelay

structure Sampling where
  maxTokens : Nat := 50
  temperature : Option Binary := none
  topP : Option Binary := none
  repeatPenalty : Option Binary := none
  deriving DecidableEq, Repr

inductive DispatchError where
  | emptySystemPrompt
  | zeroMaxTokens
  | invalidSampling (name : String) (value : Binary)
  deriving DecidableEq, Repr

def DispatchError.message : DispatchError → String
  | emptySystemPrompt => "System prompt cannot be empty"
  | zeroMaxTokens => "max_tokens must be greater than 0"
  | invalidSampling name value =>
    "Invalid sampling value for " ++ name ++ ": " ++ Binary.Layout.bare.write .single value

namespace Sampling

def check (name : String) (inRange : Rat → Bool) : Option Binary → Except DispatchError Unit
  | none => .ok ()
  | some x =>
    if x.toRat?.any inRange then .ok () else .error (.invalidSampling name x)

def validate (s : Sampling) : Except DispatchError Unit := do
  if s.maxTokens = 0 then throw .zeroMaxTokens
  check "temperature" (0 ≤ ·) s.temperature
  check "top_p" (fun p => 0 < p && p ≤ 1) s.topP
  check "repeat_penalty" (0 < ·) s.repeatPenalty

def toJson (s : Sampling) : Json :=
  .ofMembers
    [("max_tokens", some (.nat s.maxTokens)), ("temperature", s.temperature.map .single),
     ("top_p", s.topP.map .single), ("repeat_penalty", s.repeatPenalty.map .single)]

end Sampling

end PromptRelay
