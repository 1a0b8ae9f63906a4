import PromptRelay.Backend
import PromptRelay.Framer
import PromptRelay.Text.Lines

namespace PromptRelay.Console

inductive Style where
  | bold
  | dimmed
  | cyan
  | yellow
  | green
  | boldCyan
  deriving DecidableEq, Repr

def Style.codes : Style → String
  | bold => "1"
  | dimmed => "2"
  | cyan => "36"
  | yellow => "33"
  | green => "32"
  | boldCyan => "1;36"

def areColorsShown (environment : List (String × String)) (terminal : Bool) : Bool :=
  if (environment.lookup "CLICOLOR_FORCE").any (· ≠ "0") then true
  else if (environment.lookup "NO_COLOR").isSome then false
  else terminal && (environment.lookup "CLICOLOR").all (· ≠ "0")

def styled (colors : Bool) (style : Style) (s : String) : String :=
  if colors then "\x1b[" ++ style.codes ++ "m" ++ s ++ "\x1b[0m" else s

def spaces (n : Nat) : String :=
  String.ofList (List.replicate n ' ')

def width : Nat := 60

def centered (width : Nat) (s : String) : String :=
  let gap := width - s.length
  spaces (gap / 2) ++ s ++ spaces (gap - gap / 2)

def padded (width : Nat) (s : String) : String :=
  s ++ spaces (width - s.length)

def ruler (colors : Bool) : String :=
  styled colors .cyan (String.ofList (List.replicate width '='))

def row (colors : Bool) (label value : String) : String :=
  styled colors .boldCyan (padded 12 label) ++ " " ++ value ++ "\n"

structure Startup where
  listen : String
  kind : BackendKind
  backend : String
  concurrent : Bool
  transcript : Option String

def banner (colors : Bool) (s : Startup) : String :=
  ruler colors ++ "\n" ++ styled colors .bold (centered width "kernel-bridge") ++ "\n"
    ++ ruler colors ++ "\n"
    ++ row colors "Listening:" s.listen
    ++ row colors "Backend:" (s.kind.name ++ " (" ++ s.backend ++ ")")
    ++ row colors "Mode:"
      (if s.concurrent then "concurrent connections" else "one connection at a time")
    ++ (match s.transcript with
      | some path => row colors "Transcript:" path
      | none => "")
    ++ "\n" ++ styled colors .dimmed "Waiting for" ++ " "
    ++ styled colors .yellow (String.ofList mark ++ " <question>") ++ "\n"
    ++ ruler colors ++ "\n"

def found (colors : Bool) : Bool → String
  | true => styled colors .green "[FOUND]"
  | false => styled colors .dimmed "[     ]"

def sourceRow (colors : Bool) (source : String × Bool) : String :=
  "  " ++ found colors source.2 ++ " " ++ source.1 ++ "\n"

def sources (colors : Bool) (all : List (String × Bool)) : String :=
  styled colors .bold "Configuration sources (in priority order):" ++ "\n"
    ++ String.join (all.map (sourceRow colors))
    ++ sourceRow colors ("Default: built-in defaults", false)

def effective (colors : Bool) (text : String) : String :=
  "\n" ++ styled colors .bold "Effective configuration:" ++ "\n"
    ++ Text.indent "  " (String.ofList (Unicode.trimEnd text.toList)) ++ "\n"

end PromptRelay.Console
