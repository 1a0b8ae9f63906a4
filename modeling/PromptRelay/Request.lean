import PromptRelay.Unicode.WhiteSpace

namespace PromptRelay

structure Request where
  query : String
  deriving DecidableEq, Repr

def Request.ofText? (raw : List Char) : Option Request :=
  match Unicode.trim raw with
  | [] => none
  | q => some ⟨String.ofList q⟩

inductive Frame where
  | request (r : Request)
  | discarded
  deriving DecidableEq, Repr

def Frame.ofText (raw : List Char) : Frame :=
  match Request.ofText? raw with
  | some r => .request r
  | none => .discarded

end PromptRelay
