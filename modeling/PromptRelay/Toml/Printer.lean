import PromptRelay.Binary.Layout
import PromptRelay.Text.Numerals
import PromptRelay.Toml

namespace PromptRelay.Toml

open Text (upperHexDigit)

def floats : Binary.Layout :=
  ⟨.up, none, ".0", "nan", "inf", "-inf"⟩

inductive WriteError where
  | tooLarge
  | nested
  deriving DecidableEq, Repr

def WriteError.message : WriteError → String
  | tooLarge => "out-of-range value for u64 type"
  | nested => "unsupported value"

def longestRun (c : Char) : Nat → List Char → Nat
  | run, [] => run
  | run, d :: s =>
    if d = c then longestRun c (run + 1) s else max run (longestRun c 0 s)

structure Content where
  quotes : Nat
  apostrophes : Nat
  hasControl : Bool
  hasBackslash : Bool
  hasLineEnd : Bool

def isControl (c : Char) : Bool :=
  (c.toNat < 0x20 || c.toNat = 0x7F) && c ≠ '\t' && c ≠ '\n'

def content (s : List Char) : Content :=
  ⟨longestRun '"' 0 s, longestRun '\'' 0 s, s.any isControl, s.contains '\\', s.contains '\n'⟩

inductive Quotes where
  | basic
  | literal
  | basicLines
  | literalLines
  deriving DecidableEq

def quotesFor (s : List Char) : Quotes :=
  let t := content s
  if !t.hasControl && !t.hasBackslash && t.quotes = 0 && !t.hasLineEnd then .basic
  else if !t.hasControl && t.apostrophes = 0 && !t.hasLineEnd then .literal
  else if !t.hasControl && !t.hasBackslash && t.quotes ≤ 2 then .basicLines
  else if !t.hasControl && t.apostrophes ≤ 2 then .literalLines
  else if t.hasLineEnd then .basicLines
  else .basic

def escapeControl (c : Char) : List Char :=
  if c = '\x08' then ['\\', 'b']
  else if c = '\t' then ['\\', 't']
  else if c = '\n' then ['\\', 'n']
  else if c = '\x0c' then ['\\', 'f']
  else if c = '\r' then ['\\', 'r']
  else ['\\', 'u', '0', '0', upperHexDigit (c.toNat / 16), upperHexDigit (c.toNat % 16)]

/-- A text with escapes. On several lines, line ends stand for themselves, and so do quotes unless
there are more than two in a row. `run` counts the quotes before. -/
def escape (onLines : Bool) : Nat → List Char → List Char
  | _, [] => []
  | run, c :: s =>
    if c = '"' then
      if onLines && run < 2 then '"' :: escape onLines (run + 1) s
      else '\\' :: '"' :: escape onLines 0 s
    else if c = '\\' then '\\' :: '\\' :: escape onLines 0 s
    else if onLines && c = '\n' then '\n' :: escape onLines 0 s
    else if c.toNat < 0x20 || c.toNat = 0x7F then escapeControl c ++ escape onLines 0 s
    else c :: escape onLines 0 s

def stringText (s : List Char) : List Char :=
  let gap := if s.contains '\n' then ['\n'] else []
  match quotesFor s with
  | .basic => ['"'] ++ escape false 0 s ++ ['"']
  | .literal => ['\''] ++ s ++ ['\'']
  | .basicLines => ['"', '"', '"'] ++ gap ++ escape true 0 s ++ ['"', '"', '"']
  | .literalLines => ['\'', '\'', '\''] ++ gap ++ s ++ ['\'', '\'', '\'']

def intText (n : Int) : List Char :=
  if n < 0 then '-' :: Nat.toDigits 10 n.natAbs else Nat.toDigits 10 n.natAbs

def valueText : Toml → Except WriteError (List Char)
  | .string s => .ok (stringText s.toList)
  | .int n => if n < Nat.pow 2 63 then .ok (intText n) else .error .tooLarge
  | .float x => .ok (floats.write .double x).toList
  | .bool b => .ok (if b then "true" else "false").toList
  | .datetime s => .ok s.toList
  | .array _ => .error .nested
  | .table _ => .error .nested

def entryText (name : String) (v : Toml) : Except WriteError (List Char) := do
  return name.toList ++ " = ".toList ++ (← valueText v) ++ ['\n']

def sectionText (name : String) (entries : List (String × Toml)) :
    Except WriteError (List Char) := do
  let lines ← entries.mapM fun (n, v) => entryText n v
  return '[' :: name.toList ++ [']', '\n'] ++ lines.flatten

def documentText (sections : List (String × List (String × Toml))) :
    Except WriteError String := do
  let texts ← sections.mapM fun (n, entries) => sectionText n entries
  return String.ofList (['\n'].intercalate texts)

end PromptRelay.Toml
