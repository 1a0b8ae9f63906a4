import PromptRelay.Binary.Decimal
import PromptRelay.Text.Numerals
import PromptRelay.Toml

namespace PromptRelay.Toml

open Text (hexValue? readSign)

def digitRun (isDigit : Char → Bool) : List Char → Option (List Char × List Char)
  | [] => none
  | c :: s => if isDigit c then some (more c s) else none
where
  more (c : Char) : List Char → List Char × List Char
    | '_' :: d :: s =>
      if isDigit d then
        let (ds, rest) := more d s
        (c :: ds, rest)
      else ([c], '_' :: d :: s)
    | d :: s =>
      if isDigit d then
        let (ds, rest) := more d s
        (c :: ds, rest)
      else ([c], d :: s)
    | [] => ([c], [])

def valueIn (base : Nat) (ds : List Char) : Nat :=
  ds.foldl (fun n c => base * n + (hexValue? c).getD 0) 0

def readDigits : List Char → Option (List Char × List Char)
  | '0' :: s => some (['0'], s)
  | s => digitRun Char.isDigit s

def inRange (n : Int) : Option Toml :=
  if -Nat.pow 2 63 ≤ n ∧ n < Nat.pow 2 63 then some (.int n) else none

def readBase (base : Nat) (isDigit : Char → Bool) (s : List Char) : Option (Toml × List Char) := do
  let (ds, rest) ← digitRun isDigit s
  return (← inRange (valueIn base ds), rest)

def isHexDigit (c : Char) : Bool :=
  (hexValue? c).isSome

def readInt (s : List Char) : Option (Toml × List Char) :=
  match s with
  | '0' :: 'x' :: s => readBase 16 isHexDigit s
  | '0' :: 'o' :: s => readBase 8 (fun c => '0' ≤ c && c ≤ '7') s
  | '0' :: 'b' :: s => readBase 2 (fun c => c = '0' || c = '1') s
  | s => do
    let (negative, s) := readSign s
    let (ds, rest) ← readDigits s
    let n : Int := valueIn 10 ds
    return (← inRange (if negative then -n else n), rest)

def readFraction : List Char → Option (List Char × List Char)
  | '.' :: s => digitRun Char.isDigit s
  | s => some ([], s)

def readExponent : List Char → Option (Option Int × List Char)
  | c :: s =>
    if c = 'e' ∨ c = 'E' then do
      let (negative, s) := readSign s
      let (ds, rest) ← digitRun Char.isDigit s
      let n : Int := valueIn 10 ds
      return (some (if negative then -n else n), rest)
    else some (none, c :: s)
  | [] => some (none, [])

def readDecimal (s : List Char) : Option (Toml × List Char) := do
  let (negative, s) := readSign s
  let (whole, s) ← readDigits s
  let (fraction, s) ← readFraction s
  let (exponent, s) ← readExponent s
  if fraction.isEmpty && exponent.isNone then none
  let x := (Decimal.ofParts whole fraction (exponent.getD 0)).round .double negative
  if x = .infinite false then none
  return (.float x, s)

def readSpecial (s : List Char) : Option (Toml × List Char) :=
  let (negative, s) := readSign s
  match s with
  | 'i' :: 'n' :: 'f' :: rest => some (.float (.infinite negative), rest)
  | 'n' :: 'a' :: 'n' :: rest => some (.float .nan, rest)
  | _ => none

def readField (size least greatest : Nat) (s : List Char) : Option (Nat × List Char) :=
  let ds := s.take size
  let n := valueIn 10 ds
  if ds.length = size ∧ ds.all Char.isDigit ∧ least ≤ n ∧ n ≤ greatest then some (n, s.drop size)
  else none

def expect (c : Char) : List Char → Option (List Char)
  | d :: s => if d = c then some s else none
  | [] => none

def isLeap (year : Nat) : Bool :=
  year % 4 = 0 && (year % 100 ≠ 0 || year % 400 = 0)

def daysIn (year month : Nat) : Nat :=
  if month = 2 then if isLeap year then 29 else 28
  else if [4, 6, 9, 11].contains month then 30
  else 31

def skipDate (s : List Char) : Option (List Char) := do
  let (year, s) ← readField 4 0 9999 s
  let s ← expect '-' s
  let (month, s) ← readField 2 1 12 s
  let s ← expect '-' s
  let (_, s) ← readField 2 1 (daysIn year month) s
  return s

def skipTime (s : List Char) : Option (List Char) := do
  let (_, s) ← readField 2 0 23 s
  let s ← expect ':' s
  let (_, s) ← readField 2 0 59 s
  let s ← expect ':' s
  let (_, s) ← readField 2 0 60 s
  match s with
  | '.' :: d :: rest => if d.isDigit then return rest.dropWhile Char.isDigit else none
  | '.' :: [] => none
  | _ => return s

def skipZone : List Char → Option (List Char)
  | [] => some []
  | c :: s =>
    if c = 'Z' ∨ c = 'z' then some s
    else if c = '+' ∨ c = '-' then do
      let (_, s) ← readField 2 0 23 s
      let s ← expect ':' s
      let (_, s) ← readField 2 0 59 s
      return s
    else some (c :: s)

def startsTime (s : List Char) : Bool :=
  (s.take 2).all Char.isDigit && s[2]? = some ':'

def startsDate (s : List Char) : Bool :=
  (s.take 4).all Char.isDigit && s[4]? = some '-'

def skipDatetime (s : List Char) : Option (List Char) :=
  if !startsDate s then skipTime s
  else do
    let s ← skipDate s
    match s with
    | c :: t =>
      if (c = 'T' ∨ c = 't' ∨ c = ' ') ∧ startsTime t then skipZone (← skipTime t) else return s
    | [] => return []

def readDatetime (s : List Char) : Option (Toml × List Char) := do
  let rest ← skipDatetime s
  return (.datetime (String.ofList (s.take (s.length - rest.length))), rest)

def readNumber (s : List Char) : Option (Toml × List Char) :=
  if startsDate s || startsTime s then readDatetime s
  else (readDecimal s).or ((readSpecial s).or (readInt s))

end PromptRelay.Toml
