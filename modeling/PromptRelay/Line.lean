import PromptRelay.Unicode.Mark
import PromptRelay.Unicode.Normalization
import PromptRelay.Unicode.WhiteSpace
import PromptRelay.Utf8.Sequence

/-!
Lines sent to the console. Any text becomes one line: decomposed, without combining marks, with
spaces for line breaks and without white space around it.
-/

namespace PromptRelay

def isBreak (c : Char) : Bool :=
  [0x0A, 0x0D, 0x0B, 0x0C, 0x85, 0x2028, 0x2029].contains c.toNat

def foldBreaks : List Char → List Char
  | [] => []
  | '\r' :: '\n' :: s => ' ' :: foldBreaks s
  | c :: s => (if isBreak c then ' ' else c) :: foldBreaks s

def normalize (s : List Char) : List Char :=
  Unicode.trim (foldBreaks ((Unicode.nfkd s).filter fun c => !Unicode.isMark c))

structure Line where
  text : String
  deriving DecidableEq, Repr

namespace Line

def failureMark : String := "ERROR:"

def ofReply (raw : String) : Line :=
  ⟨String.ofList (normalize raw.toList)⟩

def ofFailure (cause : String) : Line :=
  ofReply (failureMark ++ " " ++ cause)

def isFailure (l : Line) : Bool :=
  failureMark.toList.isPrefixOf l.text.toList

def bytes (l : Line) : List UInt8 :=
  Utf8.encode l.text.toList ++ [0x0A]

end Line

end PromptRelay
