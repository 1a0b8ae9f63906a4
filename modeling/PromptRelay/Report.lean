namespace PromptRelay.Report

def hang (margin : List Char) (s : List Char) : List Char :=
  s.flatMap fun c => if c = '\n' then '\n' :: margin else [c]

def rightAligned (s : List Char) : List Char :=
  List.replicate (5 - s.length) ' ' ++ s

def single (cause : String) : List Char :=
  '\n' :: "    ".toList ++ hang "    ".toList cause.toList

def numbered (n : Nat) : List String → List Char
  | [] => []
  | cause :: rest =>
    '\n' :: rightAligned (Nat.toDigits 10 n) ++ ": ".toList ++ hang "       ".toList cause.toList
      ++ numbered (n + 1) rest

def causeLines : List String → List Char
  | [] => []
  | [cause] => "\n\nCaused by:".toList ++ single cause
  | causes => "\n\nCaused by:".toList ++ numbered 0 causes

def text (failure : String) (causes : List String) : String :=
  "Error: " ++ failure ++ String.ofList (causeLines causes) ++ "\n"

end PromptRelay.Report
