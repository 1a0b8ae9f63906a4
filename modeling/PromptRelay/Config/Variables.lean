import PromptRelay.Binary.Reader
import PromptRelay.Config.Setting
import PromptRelay.Text.Numerals
import PromptRelay.Unicode.WhiteSpace

namespace PromptRelay.Config.Variables

open Text (hexValue? readSign)

def start : String := "KERNEL_BRIDGE_"

def isSpace (c : Char) : Bool :=
  c = ' ' || c = '\t' || c = '\n' || c = '\r' || c = '\x0c'

def skipSpaces (s : List Char) : List Char :=
  s.dropWhile isSpace

def isSeparator (c : Char) : Bool :=
  [',', '{', '}', '[', ']'].contains c

def isKeyChar (c : Char) : Bool :=
  c.isAlphanum || c = '_' || c = '-'

def code? (ds : List Char) (size : Nat) : Option Char := do
  if ds.length ≠ size then none
  let n ← ds.foldlM (fun n c => (hexValue? c).map (16 * n + ·)) 0
  if n.isValidChar then some (Char.ofNat n) else none

def unescape : Nat → List Char → Option (List Char)
  | 0, _ => none
  | _, [] => some []
  | bound + 1, '\\' :: c :: s =>
    let keep (x : Char) (s : List Char) := (unescape bound s).map (x :: ·)
    match c with
    | 'b' => keep '\x08' s
    | 't' => keep '\t' s
    | 'n' => keep '\n' s
    | 'f' => keep '\x0c' s
    | 'r' => keep '\r' s
    | '"' => keep '"' s
    | '\\' => keep '\\' s
    | 'u' => (code? (s.take 4) 4).bind fun x => keep x (s.drop 4)
    | 'U' => (code? (s.take 8) 8).bind fun x => keep x (s.drop 8)
    | _ => none
  | _, ['\\'] => none
  | bound + 1, c :: s => (unescape bound s).map (c :: ·)

def quotedPart : List Char → Option (List Char × List Char)
  | [] => none
  | '"' :: s => some ([], s)
  | '\\' :: c :: s => (quotedPart s).map fun (x, rest) => ('\\' :: c :: x, rest)
  | c :: s => (quotedPart s).map fun (x, rest) => (c :: x, rest)

def readQuoted (s : List Char) : Option (String × List Char) := do
  let (inner, rest) ← quotedPart s
  return (String.ofList (← unescape (inner.length + 1) inner), rest)

def integer? (s : List Char) : Option Setting :=
  let (negative, digits) := readSign s
  if digits.isEmpty || !digits.all Char.isDigit then none
  else
    let n := Decimal.ofDigits digits
    if !negative then if n < Nat.pow 2 64 then some (.nat n) else none
    else if n ≤ Nat.pow 2 63 then some (.int (-n)) else none

def ofWord (word : List Char) : Setting :=
  let text := String.ofList word
  let float := if word.contains '.' then Binary.read? .double text else none
  match float, integer? word with
  | some x, _ => .float x
  | none, some n => n
  | none, none => .string text

def readKey (s : List Char) : Option (String × List Char) :=
  match s with
  | '"' :: s => readQuoted s
  | s =>
    let k := s.takeWhile isKeyChar
    if k.isEmpty then none else some (String.ofList k, s.dropWhile isKeyChar)

def afterWord? (word s : List Char) : Option (List Char) :=
  if word.isPrefixOf s then some (s.drop word.length) else none

mutual

def readValue (bound : Nat) (s : List Char) : Option (Setting × List Char) :=
  match bound with
  | 0 => none
  | bound + 1 => do
    let (v, rest) ← readBare bound (skipSpaces s)
    return (v, skipSpaces rest)

def readBare (bound : Nat) (s : List Char) : Option (Setting × List Char) :=
  match bound with
  | 0 => none
  | bound + 1 =>
    match afterWord? "true".toList s, afterWord? "false".toList s with
    | some rest, _ => some (.bool true, rest)
    | _, some rest => some (.bool false, rest)
    | none, none =>
      match s with
      | '{' :: s => (readMembers bound [] s).map fun (ms, rest) => (.dict ms, rest)
      | '[' :: s => (readItems bound s).map fun (vs, rest) => (.list vs, rest)
      | '"' :: s => (readQuoted s).map fun (x, rest) => (.string x, rest)
      | '\'' :: c :: '\'' :: rest => some (.char c, rest)
      | '\'' :: _ => none
      | s =>
        let word := Unicode.trim (s.takeWhile fun c => !isSeparator c)
        some (ofWord word, s.dropWhile fun c => !isSeparator c)

def readItems (bound : Nat) (s : List Char) : Option (List Setting × List Char) :=
  match bound with
  | 0 => none
  | bound + 1 =>
    match s with
    | ']' :: rest => some ([], rest)
    | s => do
      let (v, s) ← readValue bound s
      match s with
      | ',' :: rest => (readItems bound rest).map fun (vs, rest) => (v :: vs, rest)
      | ']' :: rest => some ([v], rest)
      | _ => none

def readMembers (bound : Nat) (ms : List (String × Setting)) (s : List Char) :
    Option (List (String × Setting) × List Char) :=
  match bound with
  | 0 => none
  | bound + 1 =>
    match s with
    | '}' :: rest => some (ms, rest)
    | s => do
      let (k, s) ← readKey (skipSpaces s)
      let (v, s) ← match skipSpaces s with
        | '=' :: s => readValue bound s
        | _ => none
      let ms := Setting.put k (fun _ => v) ms
      match s with
      | ',' :: rest => readMembers bound ms rest
      | '}' :: rest => some (ms, rest)
      | _ => none

end

def ofText (s : String) : Setting :=
  let trimmed := Unicode.trim s.toList
  match readValue (4 * trimmed.length + 4) trimmed with
  | some (v, []) => v
  | _ => .string (String.ofList trimmed)

def keyPartsFrom (part : List Char) : List Char → List (List Char)
  | [] => [part.reverse]
  | '_' :: '_' :: s => part.reverse :: keyPartsFrom [] s
  | c :: s => if c = '.' then part.reverse :: keyPartsFrom [] s else keyPartsFrom (c :: part) s

def path? (name : String) : Option (List String) :=
  let name := Unicode.trim name.toList
  let lower := name.map Char.toLower
  match afterWord? (start.toList.map Char.toLower) lower with
  | none => none
  | some rest =>
    let parts := keyPartsFrom [] (Unicode.trim rest)
    if parts.any List.isEmpty then none else some (parts.map String.ofList)

def nest (v : Setting) : List String → Setting
  | [] => v
  | name :: path => .dict [(name, nest v path)]

def settings (environment : List (String × String)) : Setting :=
  environment.foldl (fun all (name, value) =>
    match path? name with
    | some path => all.merge (nest (ofText value) path)
    | none => all) (.dict [])

end PromptRelay.Config.Variables
