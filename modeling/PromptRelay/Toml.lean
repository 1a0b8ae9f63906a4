import PromptRelay.Binary.Format

/-!
TOML values, and how tables grow as a document is read. A table remembers how it came about, which
decides what may be added to it.
-/

namespace PromptRelay

inductive Toml where
  | string (s : String)
  | int (n : Int)
  | float (x : Binary)
  | bool (b : Bool)
  | datetime (s : String)
  | array (items : List Toml)
  | table (members : List (String × Toml))

namespace Toml

inductive Origin where
  | defined
  | implied
  | dotted
  deriving DecidableEq

inductive Node where
  | value (v : Toml)
  | table (origin : Origin) (members : List (String × Node))
  | tables (items : List (List (String × Node)))

abbrev Members := List (String × Node)

namespace Members

def alter (name : String) (f : Option Node → Option Node) : Members → Option Members
  | [] => do return [(name, ← f none)]
  | (n, v) :: rest =>
    if n = name then do return (n, ← f (some v)) :: rest
    else do return (n, v) :: (← alter name f rest)

/-- Changes the members of the table at a path of keys; tables that are not there come about by
`origin`. Inside a dotted key only tables without a header are gone into. -/
def atPath (origin : Origin) (f : Origin → Members → Option Members) :
    Origin → List String → Members → Option Members
  | here, [], members => f here members
  | _, name :: path, members => members.alter name fun
    | none => do return .table origin (← atPath origin f origin path [])
    | some (.value _) => none
    | some (.table o ms) =>
      if origin = .dotted ∧ o = .defined then none
      else do return .table o (← atPath origin f o path ms)
    | some (.tables []) => none
    | some (.tables (ms :: older)) => do
      return .tables ((← atPath origin f .defined path ms) :: older)

def assign (path : List String) (name : String) (v : Toml) (members : Members) : Option Members :=
  members.atPath .dotted (fun here ms =>
    if (!path.isEmpty && here ≠ .dotted) || (ms.lookup name).isSome then none
    else some (ms ++ [(name, .value v)])) .defined path

def assignUnder (header path : List String) (name : String) (v : Toml) (members : Members) :
    Option Members :=
  members.atPath .implied (fun _ ms => ms.assign path name v) .defined header

def addTable (path : List String) (name : String) (members : Members) : Option Members :=
  members.atPath .implied (fun _ ms => ms.alter name fun
    | none => some (.table .defined [])
    | some (.table .implied inner) => some (.table .defined inner)
    | some _ => none) .defined path

def addToTables (path : List String) (name : String) (members : Members) : Option Members :=
  members.atPath .implied (fun _ ms => ms.alter name fun
    | none => some (.tables [[]])
    | some (.tables items) => some (.tables ([] :: items))
    | some _ => none) .defined path

end Members

mutual

def ofNode : Node → Toml
  | .value v => v
  | .table _ members => .table (ofMembers members)
  | .tables items => .array (ofTables items [])

def ofMembers : List (String × Node) → List (String × Toml)
  | [] => []
  | (name, v) :: rest => (name, ofNode v) :: ofMembers rest

def ofTables : List (List (String × Node)) → List Toml → List Toml
  | [], later => later
  | members :: rest, later => ofTables rest (.table (ofMembers members) :: later)

end

end Toml

end PromptRelay
