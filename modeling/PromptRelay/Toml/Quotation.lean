import PromptRelay.Toml.Scalar

namespace PromptRelay.Toml.Quotation

def isText (c : Char) : Bool :=
  c = '\t' || (0x20 ≤ c.toNat && c.toNat ≠ 0x7F)

def readCode (size : Nat) (s : List Char) : Option (Char × List Char) :=
  let ds := s.take size
  let n := valueIn 16 ds
  if ds.length = size ∧ ds.all isHexDigit ∧ n.isValidChar then
    some (Char.ofNat n, s.drop size)
  else none

def readEscape : List Char → Option (Char × List Char)
  | 'b' :: s => some ('\x08', s)
  | 't' :: s => some ('\t', s)
  | 'n' :: s => some ('\n', s)
  | 'f' :: s => some ('\x0c', s)
  | 'r' :: s => some ('\r', s)
  | '"' :: s => some ('"', s)
  | '\\' :: s => some ('\\', s)
  | 'u' :: s => readCode 4 s
  | 'U' :: s => readCode 8 s
  | _ => none

def basicUpTo : Nat → List Char → Option (List Char × List Char)
  | 0, _ => none
  | _, [] => none
  | bound + 1, c :: s =>
    if c = '"' then some ([], s)
    else if c = '\\' then do
      let (x, s) ← readEscape s
      let (xs, rest) ← basicUpTo bound s
      return (x :: xs, rest)
    else if isText c then do
      let (xs, rest) ← basicUpTo bound s
      return (c :: xs, rest)
    else none

def basic (s : List Char) : Option (List Char × List Char) :=
  basicUpTo (s.length + 1) s

def literal : List Char → Option (List Char × List Char)
  | [] => none
  | c :: s =>
    if c = '\'' then some ([], s)
    else if isText c then do
      let (xs, rest) ← literal s
      return (c :: xs, rest)
    else none

def lineEnd? : List Char → Option (List Char)
  | '\n' :: s => some s
  | '\r' :: '\n' :: s => some s
  | _ => none

def dropFirstLineEnd (s : List Char) : List Char :=
  (lineEnd? s).getD s

def isSpace (c : Char) : Bool :=
  c = ' ' || c = '\t'

def continued? (s : List Char) : Option (List Char) := do
  let s ← lineEnd? (s.dropWhile isSpace)
  let rec skip : List Char → List Char
    | '\r' :: '\n' :: s => skip s
    | '\n' :: s => skip s
    | c :: s => if isSpace c then skip s else c :: s
    | [] => []
  return skip s

/-- Quotes at a place of a text on several lines, if they end it: what is left of the text, and what
follows it. Two quotes more than those that end it belong to the text. -/
def closing? (q : Char) (s : List Char) : Option (List Char × List Char) :=
  let run := (s.takeWhile (· = q)).length
  if run < 3 then none
  else some (List.replicate (min (run - 3) 2) q, s.drop (min run 5))

def linesUpTo (q : Char) (escapes : Bool) : Nat → List Char → Option (List Char × List Char)
  | 0, _ => none
  | _, [] => none
  | bound + 1, c :: s =>
    let keep (x : Char) (s : List Char) := do
      let (xs, rest) ← linesUpTo q escapes bound s
      return (x :: xs, rest)
    if c = q then
      match closing? q (c :: s) with
      | some result => some result
      | none => keep c s
    else if escapes && c = '\\' then
      match continued? s with
      | some s => linesUpTo q escapes bound s
      | none => do
        let (x, s) ← readEscape s
        keep x s
    else
      match lineEnd? (c :: s) with
      | some s => keep '\n' s
      | none => if isText c then keep c s else none

def onLines (q : Char) (escapes : Bool) (s : List Char) : Option (List Char × List Char) :=
  linesUpTo q escapes (s.length + 1) (dropFirstLineEnd s)

def read : List Char → Option (List Char × List Char)
  | '"' :: '"' :: '"' :: s => onLines '"' true s
  | '\'' :: '\'' :: '\'' :: s => onLines '\'' false s
  | '"' :: s => basic s
  | '\'' :: s => literal s
  | _ => none

end PromptRelay.Toml.Quotation
