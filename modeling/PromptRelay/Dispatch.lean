import PromptRelay.Backend

namespace PromptRelay

structure Dispatch where
  systemPrompt : String :=
    "You are JC-AI running inside a custom Rust kernel. Be extremely concise, max 15 words."
  sampling : Sampling := {}
  timeout : Option Nat := none
  readBufferSize : Nat := 1024
  deriving DecidableEq, Repr

namespace Dispatch

def withReadBufferSize (d : Dispatch) (n : Nat) : Dispatch :=
  { d with readBufferSize := max n 1 }

def validate (d : Dispatch) : Except DispatchError Unit :=
  if Unicode.isBlank d.systemPrompt then .error .emptySystemPrompt else d.sampling.validate

def call (d : Dispatch) (r : Request) : Call :=
  ⟨r.query, d.systemPrompt, d.sampling⟩

def secondsText (ms : Nat) : String :=
  let part := Binary.round .double false (ms % 1000) 1000
  let whole := Binary.ofNat .double (ms / 1000)
  Binary.Layout.bare.write .double (Binary.add .double whole part)

def timeoutReply (ms : Nat) : Reply :=
  .failure ("backend timed out after " ++ secondsText ms ++ "s")

def await (d : Dispatch) (delay : Nat) (outcome : Outcome) : Outcome :=
  match d.timeout with
  | some limit => if limit < delay then .ok (timeoutReply limit) else outcome
  | none => outcome

end Dispatch

end PromptRelay
