import PromptRelay.Backend

/-!
The command line. Arguments are taken one by one; a named value waits for what follows its name, and
is taken in with the next name or at the end.
-/

namespace PromptRelay

structure CommandLine where
  host : Option String := none
  port : Option Nat := none
  backend : Option BackendKind := none
  concurrent : Bool := false
  verbosity : Nat := 0
  quiet : Bool := false
  logDirectory : Option String := none
  transcript : Option String := none
  config : Option String := none
  noConfig : Bool := false
  showConfig : Bool := false
  deriving DecidableEq, Repr

namespace CommandLine

inductive Refusal where
  | unknownArgument
  | invalidValue
  | missingValue
  | repeated
  | needlessValue
  | help
  | version
  deriving DecidableEq, Repr

inductive Named where
  | host
  | port
  | backend
  | logDirectory
  | transcript
  | config
  deriving DecidableEq, Repr

inductive Switch where
  | concurrent
  | verbose
  | quiet
  | noConfig
  | showConfig
  | help
  | version
  deriving DecidableEq, Repr

inductive Argument where
  | named (n : Named)
  | switch (s : Switch)
  deriving DecidableEq, Repr

def longNames : List (String × Argument) :=
  [("host", .named .host), ("port", .named .port), ("backend", .named .backend),
   ("concurrent", .switch .concurrent), ("verbose", .switch .verbose), ("quiet", .switch .quiet),
   ("log-dir", .named .logDirectory), ("transcript", .named .transcript),
   ("config", .named .config), ("no-config", .switch .noConfig),
   ("show-config", .switch .showConfig), ("help", .switch .help), ("version", .switch .version)]

def letters : List (Char × Argument) :=
  [('p', .named .port), ('b', .named .backend), ('v', .switch .verbose), ('q', .switch .quiet),
   ('h', .switch .help), ('V', .switch .version)]

structure Draft where
  line : CommandLine := {}
  /-- A named value that waits, and what followed its name. -/
  pending : Option (Named × Option String) := none
  closed : Bool := false

def readPort? (s : String) : Option Nat :=
  let digits := match s.toList with
    | '+' :: ds => ds
    | '-' :: '0' :: ds => if ds.all (· = '0') then ['0'] else []
    | ds => ds
  if digits.isEmpty || !digits.all Char.isDigit then none
  else
    let n := digits.foldl (fun n c => 10 * n + (c.toNat - 48)) 0
    if n < Nat.pow 2 16 then some n else none

def once {α β : Type} (old : Option α) (new : Except Refusal β) : Except Refusal β :=
  if old.isSome then .error .repeated else new

def required {α : Type} (x : Option α) : Except Refusal α :=
  match x with
  | some x => .ok x
  | none => .error .invalidValue

def path (s : String) : Except Refusal String :=
  if s = "" then .error .missingValue else .ok s

def setNamed (c : CommandLine) (value : String) : Named → Except Refusal CommandLine
  | .host => once c.host (.ok { c with host := value })
  | .port => once c.port do return { c with port := ← required (readPort? value) }
  | .backend => once c.backend do
    return { c with backend := ← required (BackendKind.ofText value).toOption }
  | .logDirectory => once c.logDirectory do return { c with logDirectory := ← path value }
  | .transcript => once c.transcript do return { c with transcript := ← path value }
  | .config => once c.config do return { c with config := ← path value }

def setFlag (old : Bool) (new : CommandLine) : Except Refusal CommandLine :=
  if old then .error .repeated else .ok new

def countLimit : Nat := 255

def setSwitch (c : CommandLine) : Switch → Except Refusal CommandLine
  | .concurrent => setFlag c.concurrent { c with concurrent := true }
  | .verbose => .ok { c with verbosity := min (c.verbosity + 1) countLimit }
  | .quiet => setFlag c.quiet { c with quiet := true }
  | .noConfig => setFlag c.noConfig { c with noConfig := true }
  | .showConfig => setFlag c.showConfig { c with showConfig := true }
  | .help => .error .help
  | .version => .error .version

namespace Draft

def settle (d : Draft) : Except Refusal Draft :=
  match d.pending with
  | none => .ok d
  | some (_, none) => .error .missingValue
  | some (n, some value) => do return { d with line := ← d.line.setNamed value n, pending := none }

def takeNamed (d : Draft) (n : Named) (value : Option String) : Except Refusal Draft := do
  let d ← d.settle
  match value with
  | some v => return { d with line := ← d.line.setNamed v n }
  | none => return { d with pending := some (n, none) }

def takeSwitch (d : Draft) (s : Switch) : Except Refusal Draft := do
  let d ← d.settle
  return { d with line := ← d.line.setSwitch s }

def takeLetters (d : Draft) : List Char → Except Refusal Draft
  | [] => .ok d
  | c :: rest =>
    match letters.lookup c with
    | none => .error .unknownArgument
    | some (.switch s) => do (← d.takeSwitch s).takeLetters rest
    | some (.named n) =>
      match rest with
      | [] => d.takeNamed n none
      | '=' :: value => d.takeNamed n (some (String.ofList value))
      | value => d.takeNamed n (some (String.ofList value))

def takeLong (d : Draft) (s : List Char) : Except Refusal Draft :=
  let name := s.takeWhile (· ≠ '=')
  let value := match s.dropWhile (· ≠ '=') with
    | _ :: v => some (String.ofList v)
    | [] => none
  match longNames.lookup (String.ofList name), value with
  | none, _ => .error .unknownArgument
  | some (.named n), value => d.takeNamed n value
  | some (.switch _), some _ => .error .needlessValue
  | some (.switch s), none => d.takeSwitch s

def take (d : Draft) (argument : String) : Except Refusal Draft :=
  if d.closed then .error .unknownArgument
  else
    match argument.toList with
    | ['-', '-'] => .ok { d with closed := true }
    | '-' :: '-' :: s => d.takeLong s
    | '-' :: c :: s => d.takeLetters (c :: s)
    | _ =>
      match d.pending with
      | some (n, none) => .ok { d with pending := some (n, some argument) }
      | _ => .error .unknownArgument

end Draft

def read (arguments : List String) : Except Refusal CommandLine := do
  let d ← arguments.foldlM Draft.take {}
  return (← d.settle).line

def logLevel (c : CommandLine) : String :=
  match c.verbosity with
  | 0 => "warn"
  | 1 => "info"
  | 2 => "debug"
  | _ => "trace"

end CommandLine

end PromptRelay
