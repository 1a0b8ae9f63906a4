import PromptRelay.Toml.Quotation

namespace PromptRelay.Toml

open Quotation (isSpace isText lineEnd?)

def depthLimit : Nat := 80

def skipSpaces (s : List Char) : List Char :=
  s.dropWhile isSpace

def isBareKey (c : Char) : Bool :=
  c.isAlphanum || c = '-' || c = '_'

def readKeyPart (s : List Char) : Option (String × List Char) :=
  match s with
  | '"' :: s => (Quotation.basic s).map fun (k, rest) => (String.ofList k, rest)
  | '\'' :: s => (Quotation.literal s).map fun (k, rest) => (String.ofList k, rest)
  | s =>
    let k := s.takeWhile isBareKey
    if k.isEmpty then none else some (String.ofList k, s.dropWhile isBareKey)

def readParts : Nat → List Char → Option (List String × List Char)
  | 0, _ => none
  | bound + 1, s => do
    let (k, s) ← readKeyPart (skipSpaces s)
    match skipSpaces s with
    | '.' :: s =>
      let (ks, rest) ← readParts bound s
      return (k :: ks, rest)
    | s => return ([k], s)

def readKey (s : List Char) : Option (List String × String × List Char) := do
  let (ks, rest) ← readParts (depthLimit - 1) s
  return (ks.dropLast, ← ks.getLast?, rest)

def skipComment : List Char → List Char
  | '#' :: s => s.dropWhile isText
  | s => s

def skipLines : Nat → List Char → List Char
  | 0, s => s
  | bound + 1, s =>
    let s := skipSpaces s
    match lineEnd? (skipComment s) with
    | some s => skipLines bound s
    | none => s

def skipBetween (s : List Char) : List Char :=
  skipLines (s.length + 1) s

def word (w : List Char) (v : Toml) (s : List Char) : Option (Toml × List Char) :=
  if w.isPrefixOf s then some (v, s.drop w.length) else none

mutual

/-- A value, and what follows it. `bound` is more than twice the number of characters. -/
def readValue (bound depth : Nat) (s : List Char) : Option (Toml × List Char) :=
  match bound with
  | 0 => none
  | bound + 1 =>
    match s with
    | [] => none
    | c :: rest =>
      if c = '"' ∨ c = '\'' then
        (Quotation.read s).map fun (k, rest) => (.string (String.ofList k), rest)
      else if c = '[' then
        if depthLimit ≤ depth + 1 then none
        else (readItems bound (depth + 1) rest).map fun (vs, rest) => (.array vs, rest)
      else if c = '{' then
        if depthLimit ≤ depth + 1 then none
        else do
          let (ms, rest) ← readMembers bound (depth + 1) [] rest
          return (.table (ofMembers ms), rest)
      else if c = 't' then word "true".toList (.bool true) s
      else if c = 'f' then word "false".toList (.bool false) s
      else if c = 'i' ∨ c = 'n' then readSpecial s
      else if c = '+' ∨ c = '-' ∨ c.isDigit then readNumber s
      else none

def readItems (bound depth : Nat) (s : List Char) : Option (List Toml × List Char) :=
  match bound with
  | 0 => none
  | bound + 1 =>
    match skipBetween s with
    | ']' :: rest => some ([], rest)
    | s => do
      let (v, s) ← readValue bound depth s
      match skipBetween s with
      | ',' :: rest =>
        let (vs, rest) ← readItems bound depth rest
        return (v :: vs, rest)
      | ']' :: rest => return ([v], rest)
      | _ => none

def readMembers (bound depth : Nat) (ms : Members) (s : List Char) :
    Option (Members × List Char) :=
  match bound with
  | 0 => none
  | bound + 1 =>
    match skipSpaces s with
    | '}' :: rest => if ms.isEmpty then some (ms, rest) else none
    | s => do
      let (path, name, s) ← readKey s
      let s ← expect '=' s
      let (v, s) ← readValue bound depth (skipSpaces s)
      let ms ← ms.assign path name v
      match skipSpaces s with
      | ',' :: rest => readMembers bound depth ms rest
      | '}' :: rest => return (ms, rest)
      | _ => none

end

structure Draft where
  header : List String := []
  members : Members := []

def endLine (s : List Char) : Option (List Char) :=
  match skipComment (skipSpaces s) with
  | [] => some []
  | s => lineEnd? s

def readHeader (d : Draft) (s : List Char) : Option (Draft × List Char) :=
  match s with
  | '[' :: s => do
    let (path, name, s) ← readKey s
    let s ← expect ']' (← expect ']' s)
    return (⟨path ++ [name], ← d.members.addToTables path name⟩, s)
  | s => do
    let (path, name, s) ← readKey s
    let s ← expect ']' s
    return (⟨path ++ [name], ← d.members.addTable path name⟩, s)

def readEntry (d : Draft) (s : List Char) : Option (Draft × List Char) := do
  let (path, name, s) ← readKey s
  let s ← expect '=' s
  let (v, rest) ← readValue (2 * s.length + 2) 0 (skipSpaces s)
  return ({ d with members := ← d.members.assignUnder d.header path name v }, rest)

def readLines (bound : Nat) (d : Draft) (s : List Char) : Option Draft :=
  match bound with
  | 0 => none
  | bound + 1 =>
    match skipSpaces s with
    | [] => some d
    | c :: rest => do
      let (d, s) ← if c = '[' then readHeader d rest
        else if c = '#' ∨ c = '\n' ∨ c = '\r' then some (d, c :: rest)
        else readEntry d (c :: rest)
      readLines bound d (← endLine s)

def read? (s : String) : Option (List (String × Toml)) := do
  let s := match s.toList with
    | '\uFEFF' :: s => s
    | s => s
  let d ← readLines (s.length + 1) {} s
  return ofMembers d.members

end PromptRelay.Toml
