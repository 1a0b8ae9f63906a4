import PromptRelay.Text.Numerals
import PromptRelay.Utf8.Decoder

/-!
Addresses of resources on the web, and the one way in which each is written: names of hosts in small
letters, usual ports left out, dots in paths resolved, and other characters as codes of their bytes.
Names of hosts in other alphabets are not read.
-/

namespace PromptRelay.Http

structure Url where
  scheme : String
  user : String := ""
  password : Option String := none
  host : Option String := none
  port : Option Nat := none
  path : String := ""
  query : Option String := none
  fragment : Option String := none
  deriving DecidableEq, Repr

namespace Url

open Text (hexValue? upperHexDigit)

def usualPorts : List (String × Nat) :=
  [("ftp", 21), ("http", 80), ("https", 443), ("ws", 80), ("wss", 443)]

def isSchemeChar (c : Char) : Bool :=
  c.isAlphanum || c = '+' || c = '-' || c = '.'

def readScheme? (s : List Char) : Option (String × List Char) :=
  match s.takeWhile isSchemeChar, s.dropWhile isSchemeChar with
  | c :: name, ':' :: rest =>
    if c.isAlpha then some (String.ofList ((c :: name).map Char.toLower), rest) else none
  | _, _ => none

def encode (coded : List Char) (s : List Char) : List Char :=
  s.flatMap fun c =>
    if c.toNat < 0x20 || 0x7F ≤ c.toNat || coded.contains c then
      (Utf8.encode [c]).flatMap fun b =>
        ['%', upperHexDigit (b.toNat / 16), upperHexDigit (b.toNat % 16)]
    else [c]

def pathSet : List Char :=
  [' ', '"', '<', '>', '`', '#', '?', '{', '}']

def userSet : List Char :=
  pathSet ++ ['/', ':', ';', '=', '@', '[', '\\', ']', '^', '|']

def fragmentSet : List Char :=
  [' ', '"', '<', '>', '`']

def querySet (special : Bool) : List Char :=
  if special then [' ', '"', '#', '<', '>', '\''] else [' ', '"', '#', '<', '>']

def decode : List Char → List UInt8
  | [] => []
  | '%' :: a :: b :: s =>
    match hexValue? a, hexValue? b with
    | some x, some y => (x * 16 + y).toUInt8 :: decode s
    | _, _ => Utf8.encode ['%'] ++ decode (a :: b :: s)
  | c :: s => Utf8.encode [c] ++ decode s

def splitAt (isSeparator : Char → Bool) (part : List Char) : List Char → List (List Char)
  | [] => [part.reverse]
  | c :: s =>
    if isSeparator c then part.reverse :: splitAt isSeparator [] s
    else splitAt isSeparator (c :: part) s

def digits? (base : Nat) (s : List Char) : Option Nat :=
  s.foldlM (fun n c => do
    let d ← hexValue? c
    if d < base then some (n * base + d) else none) 0

def readNumber? : List Char → Option Nat
  | [] => none
  | '0' :: 'x' :: s => digits? 16 s
  | '0' :: s => digits? 8 s
  | s => digits? 10 s

def endsInNumber (labels : List (List Char)) : Bool :=
  match labels.getLast? with
  | some l =>
    !l.isEmpty
      && (l.all Char.isDigit || (['0', 'x'].isPrefixOf l && (readNumber? l).isSome))
  | none => false

def dotted (n : Nat) : String :=
  ".".intercalate ([n / 0x1000000, n / 0x10000, n / 0x100, n].map fun k => toString (k % 256))

def readIpv4? (labels : List (List Char)) : Option String := do
  let numbers ← labels.mapM readNumber?
  let last ← numbers.getLast?
  let first := numbers.dropLast
  if 4 < numbers.length || first.any (255 < ·) then none
  else if Nat.pow 256 (4 - first.length) ≤ last then none
  else some (dotted (first.foldr (fun n (value, unit) => (value + n * unit, unit * 256))
    (last, Nat.pow 256 (4 - first.length)) |>.1))

def isForbidden (c : Char) : Bool :=
  c.toNat ≤ 0x20 || 0x7F ≤ c.toNat || "#/:<>?@[\\]^|%".toList.contains c

def readHost? (s : List Char) : Option String :=
  match s with
  | '[' :: rest =>
    let inner := rest.dropLast
    if rest.getLast? = some ']' ∧ inner.contains ':'
        ∧ inner.all fun c => (hexValue? c).isSome || c = ':' || c = '.' then
      some (String.ofList (s.map Char.toLower))
    else none
  | s => do
    let name := (← Utf8.decode? (decode s)).map Char.toLower
    if name.isEmpty || name.any isForbidden then none
    else
      let labels := splitAt (· = '.') [] name
      let labels := if labels.getLast? = some [] then labels.dropLast else labels
      if endsInNumber labels then readIpv4? labels else some (String.ofList name)

def splitHost (s : List Char) : List Char × List Char :=
  match s with
  | '[' :: _ =>
    let inner := s.takeWhile (· ≠ ']')
    (inner ++ (s.drop inner.length).take 1, s.drop (inner.length + 1))
  | s => (s.takeWhile (· ≠ ':'), s.dropWhile (· ≠ ':'))

def readPort? : List Char → Option (Option Nat)
  | [] => some none
  | [':'] => some none
  | ':' :: s => do
    let n ← digits? 10 s
    if n < 0x10000 then some (some n) else none
  | _ => none

/-- The user and the password that are named up to the last `@`, and what stands behind it. An empty
password is none. -/
def splitUser (s : List Char) : String × Option String × List Char :=
  if s.contains '@' then
    let place := (s.reverse.takeWhile (· ≠ '@')).reverse
    let named := s.take (s.length - place.length - 1)
    let user := named.takeWhile (· ≠ ':')
    let password := (named.dropWhile (· ≠ ':')).drop 1
    let written (part : List Char) := String.ofList (encode userSet part)
    (written user, if password.isEmpty then none else some (written password), place)
  else ("", none, s)

def isDot (s : List Char) : Bool :=
  [".", "%2e"].contains (String.ofList (s.map Char.toLower))

def isTwoDots (s : List Char) : Bool :=
  ["..", ".%2e", "%2e.", "%2e%2e"].contains (String.ofList (s.map Char.toLower))

/-- Segments without dots. `before` are those of the path so far, the latest first. -/
def resolve (before : List (List Char)) : List (List Char) → List (List Char)
  | [] => before.reverse
  | s :: rest =>
    if isTwoDots s then resolve (if rest.isEmpty then [] :: before.tail else before.tail) rest
    else if isDot s then resolve (if rest.isEmpty then [] :: before else before) rest
    else resolve (s :: before) rest

def pathText (isSlash : Char → Bool) (s : List Char) : String :=
  let segments := match s with
    | [] => [[]]
    | c :: rest => splitAt isSlash [] (if isSlash c then rest else s)
  String.ofList ((resolve [] (segments.map (encode pathSet))).flatMap ('/' :: ·))

def cut (stops : List Char) (s : List Char) : List Char × List Char :=
  (s.takeWhile (!stops.contains ·), s.dropWhile (!stops.contains ·))

def withEnd (u : Url) (special : Bool) (s : List Char) : Url :=
  let (question, rest) := cut ['#'] s
  { u with
    query := match question with
      | '?' :: q => some (String.ofList (encode (querySet special) q))
      | _ => none
    fragment := match rest with
      | '#' :: f => some (String.ofList (encode fragmentSet f))
      | _ => none }

def readSpecial? (scheme : String) (usual : Nat) (s : List Char) : Option Url := do
  let isSlash (c : Char) := c = '/' || c = '\\'
  let (authority, rest) := cut ['/', '\\', '?', '#'] (s.dropWhile isSlash)
  let (user, password, place) := splitUser authority
  let (host, port) := splitHost place
  let host ← readHost? host
  let port ← readPort? port
  let (path, rest) := cut ['?', '#'] rest
  let u : Url :=
    { scheme := scheme
      user := user
      password := password
      host := some host
      port := port.filter (· ≠ usual)
      path := pathText isSlash path }
  return u.withEnd true rest

def readOther? (scheme : String) (s : List Char) : Option Url := do
  let u : Url := { scheme := scheme }
  match s with
  | '/' :: '/' :: s =>
    let (authority, rest) := cut ['/', '?', '#'] s
    let (user, password, place) := splitUser authority
    let (host, port) := splitHost place
    let isNamed := user ≠ "" || password.isSome || (authority = ['@'] && !rest.isEmpty)
    if host.isEmpty && (isNamed || !port.isEmpty) then none
    let port ← readPort? port
    let (path, rest) := cut ['?', '#'] rest
    let u := { u with
      user := user
      password := password
      host := some (String.ofList (encode [] host))
      port := port
      path := if path.isEmpty then "" else pathText (· = '/') path }
    return u.withEnd false rest
  | s =>
    let (path, rest) := cut ['?', '#'] s
    let u := { u with
      path := if path.head? = some '/' then pathText (· = '/') path
        else String.ofList (encode [] path) }
    return u.withEnd false rest

def read? (s : String) : Option Url := do
  let isOuter (c : Char) := c.toNat ≤ 0x20
  let s := ((s.toList.dropWhile isOuter).reverse.dropWhile isOuter).reverse
  let (scheme, rest) ← readScheme? (s.filter fun c => c ≠ '\t' && c ≠ '\n' && c ≠ '\r')
  match usualPorts.lookup scheme with
  | some usual => readSpecial? scheme usual rest
  | none => readOther? scheme rest

def authority (u : Url) : String :=
  u.host.getD "" ++ (match u.port with
    | some n => ":" ++ toString n
    | none => "")

def target (u : Url) : String :=
  u.path ++ (match u.query with
    | some q => "?" ++ q
    | none => "")

def userText (u : Url) : String :=
  match u.password with
  | some p => u.user ++ ":" ++ p ++ "@"
  | none => if u.user = "" then "" else u.user ++ "@"

def text (u : Url) : String :=
  u.scheme ++ ":" ++ (if u.host.isSome then "//" ++ u.userText ++ u.authority else "") ++ u.target
    ++ (match u.fragment with
      | some f => "#" ++ f
      | none => "")

end Url

end PromptRelay.Http
