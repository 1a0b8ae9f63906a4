import PromptRelay.FileTree
import PromptRelay.Unicode.Alphanumeric
import PromptRelay.Unicode.WhiteSpace
import PromptRelay.Utf8.Decoder

/-!
Files with environment variables. Each line sets one, which may stand in quotes, go over several
lines and refer to others. Variables that are set already stay as they are. The first line that
makes no sense ends the reading; what was set before it stays.
-/

namespace PromptRelay.VariablesFile

def name : String := ".env"

inductive Place where
  | outside
  | blank
  | escape
  | double
  | doubleEscape
  | single
  | singleEscape
  | comment
  deriving DecidableEq, Repr

def Place.opening (c : Char) : Place :=
  if c = '\\' then escape
  else if c = '"' then double
  else if c = '\'' then single
  else outside

def Place.step (c : Char) : Place → Place
  | blank => if c = '#' then comment else opening c
  | outside =>
    if Unicode.isWhiteSpace c && c ≠ '\n' && c ≠ '\r' then blank else opening c
  | escape => outside
  | double => if c = '\\' then doubleEscape else if c = '"' then outside else double
  | doubleEscape => double
  | single => if c = '\\' then singleEscape else if c = '\'' then outside else single
  | singleEscape => single
  | comment => comment

def scan : Place → List Char → List Char × Place
  | p, [] => ([], p)
  | p, c :: s =>
    match p.step c with
    | .comment => ([], .comment)
    | p =>
      let (kept, p) := scan p s
      (c :: kept, p)

def dropLineEnd (line : List Char) : List Char :=
  match line.reverse with
  | '\n' :: '\r' :: s => s.reverse
  | '\n' :: s => s.reverse
  | _ => line

/-- Takes lines until all quotes are closed, given what was taken already: the whole, and the lines
that follow. The whole is `none` if it has no end. A line that is no text is `none` as well. -/
def takeLines (place : Place) (taken : List Char) :
    List (Option (List Char)) → Option (Option (List Char) × List (Option (List Char)))
  | [] => if place = .outside then none else some (none, [])
  | none :: rest => some (none, rest)
  | some line :: rest =>
    if (Unicode.trimStart (taken ++ line)).head? = some '#' then some (some [], rest)
    else
      let (kept, place) := scan place line
      match place with
      | .outside => some (some (dropLineEnd (taken ++ line)), rest)
      | .comment => some (some (taken ++ kept), rest)
      | place => takeLines place (taken ++ line) rest

structure Reference where
  braces : Bool := false
  name : List Char := []

structure Draft where
  value : List Char := []
  single : Bool := false
  double : Bool := false
  escaped : Bool := false
  closed : Bool := false
  reference : Option Reference := none

namespace Draft

def push (d : Draft) (c : Char) : Draft :=
  { d with value := c :: d.value }

def substitute (d : Draft) (value : String → String) (r : Reference) : Draft :=
  { d with
    value := (value (String.ofList r.name.reverse)).toList.reverse ++ d.value
    reference := none }

def refer (d : Draft) (value : String → String) (c : Char) (r : Reference) : Draft :=
  if Unicode.isAlphanumeric c then { d with reference := some { r with name := c :: r.name } }
  else if r.braces then
    if c = '}' then d.substitute value r
    else { d with reference := some { r with name := c :: r.name } }
  else if c = '{' && r.name.isEmpty then { d with reference := some { r with braces := true } }
  else
    let d := d.substitute value r
    if c = '$' then { d with reference := some {} } else d.push c

def step (value : String → String) (d : Draft) (c : Char) : Option Draft :=
  if d.escaped then
    if ['\\', '\'', '"', '$', ' '].contains c then some { d.push c with escaped := false }
    else if c = 'n' then some { d.push '\n' with escaped := false }
    else none
  else if d.single then some (if c = '\'' then { d with single := false } else d.push c)
  else
    match d.reference with
    | some r => some (d.refer value c r)
    | none =>
      if c = '$' then some { d with reference := some {} }
      else if c = '\\' then some { d with escaped := true }
      else if d.double then some (if c = '"' then { d with double := false } else d.push c)
      else if c = '\'' then some { d with single := true }
      else if c = '"' then some { d with double := true }
      else if c = ' ' || c = '\t' then some { d with closed := true }
      else some (d.push c)

def read (value : String → String) (d : Draft) : List Char → Option Draft
  | [] => some d
  | c :: s =>
    if d.closed then
      if c = ' ' || c = '\t' then read value d s
      else if c = '#' then some d
      else none
    else do read value (← d.step value c) s

end Draft

def readValue (value : String → String) (s : List Char) : Option String := do
  let d ← Draft.read value {} s
  let r := d.reference.getD {}
  if r.braces || d.single || d.double then none
  return String.ofList (d.substitute value r).value.reverse

def isKeyStart (c : Char) : Bool :=
  c.isAlpha || c = '_'

def isKeyChar (c : Char) : Bool :=
  c.isAlphanum || c = '_' || c = '.'

def readKey (s : List Char) : Option (String × List Char) :=
  match s with
  | [] => none
  | c :: _ =>
    if isKeyStart c then
      some (String.ofList (s.takeWhile isKeyChar), Unicode.trimStart (s.dropWhile isKeyChar))
    else none

def dropEqual : List Char → Option (List Char)
  | '=' :: s => some (Unicode.trimStart s)
  | _ => none

def isEmptyOrComment (s : List Char) : Bool :=
  s.isEmpty || s.head? = some '#'

def readStart (s : List Char) : Option (String × List Char) := do
  let (key, s) ← readKey s
  return (key, ← dropEqual s)

def readExported (s : List Char) : Option (String × List Char) := do
  let (key, rest) ← readKey s
  if key = "export" && (dropEqual rest).isNone then readStart rest else readStart s

def readLine (value : String → String) (line : List Char) : Option (Option (String × String)) := do
  let s := Unicode.trim line
  if isEmptyOrComment s then return none
  let (key, s) ← readExported s
  if isEmptyOrComment s then return some (key, "")
  return some (key, ← readValue value s)

/-- Sets the variables of some lines. `inFile` are those set by lines before, the latest first.
`bound` is more than the number of lines. -/
def setLines : Nat → List (String × String) → List (String × String) →
    List (Option (List Char)) → List (String × String)
  | 0, environment, _, _ => environment
  | bound + 1, environment, inFile, lines =>
    let value (n : String) := (environment.lookup n).getD ((inFile.lookup n).getD "")
    match takeLines .outside [] lines with
    | none => environment
    | some (none, _) => environment
    | some (some line, rest) =>
      match readLine value line with
      | none => environment
      | some none => setLines bound environment inFile rest
      | some (some (key, v)) =>
        let all := if (environment.lookup key).isSome then environment else environment ++ [(key, v)]
        setLines bound all ((key, v) :: inFile) rest

def splitLines (line : List UInt8) : List UInt8 → List (List UInt8)
  | [] => if line.isEmpty then [] else [line.reverse]
  | b :: bs =>
    if b = 0x0A then (b :: line).reverse :: splitLines [] bs else splitLines (b :: line) bs

def dropMark : List UInt8 → List UInt8
  | 0xEF :: 0xBB :: 0xBF :: bs => bs
  | bs => bs

def load (environment : List (String × String)) (bytes : List UInt8) : List (String × String) :=
  let lines := (splitLines [] (dropMark bytes)).map Utf8.decode?
  setLines (lines.length + 1) environment [] lines

def find? (files : FileTree) (here : List String) : Option (List UInt8) :=
  (List.range (here.length + 1)).findSome? fun up =>
    files.readFile? (here.take (here.length - up)) name

end PromptRelay.VariablesFile
