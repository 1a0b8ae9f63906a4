import PromptRelay.Config
import PromptRelay.Text.Quoted
import PromptRelay.Toml

namespace PromptRelay

inductive Setting where
  | unset
  | string (s : String)
  | char (c : Char)
  | bool (b : Bool)
  | nat (n : Nat)
  | int (n : Int)
  | float (x : Binary)
  | list (items : List Setting)
  | dict (members : List (String × Setting))

inductive SettingProblem where
  | invalidType (found wanted : String)
  | invalidValue (found wanted : String)
  | unknownVariant (name : String) (names : List String)
  | malformed
  deriving DecidableEq, Repr

structure SettingError where
  path : List String
  problem : SettingProblem
  deriving DecidableEq, Repr

namespace SettingProblem

def message : SettingProblem → String
  | invalidType found wanted => "invalid type: found " ++ found ++ ", expected " ++ wanted
  | invalidValue found wanted => "invalid value " ++ found ++ ", expected " ++ wanted
  | unknownVariant name names =>
    "unknown variant: found `" ++ name ++ "`, expected `" ++ Json.alternatives names ++ "`"
  | malformed => "malformed document"

end SettingProblem

namespace Setting

def describe : Setting → String
  | unset => "unit"
  | string s => "string " ++ Text.quoted s
  | char c => "string " ++ Text.quoted (String.singleton c)
  | bool b => "bool " ++ if b then "true" else "false"
  | nat n => "unsigned int `" ++ toString n ++ "`"
  | int n => "signed int `" ++ toString n ++ "`"
  | float x => "float `" ++ Binary.Layout.bare.write .double x ++ "`"
  | list _ => "sequence"
  | dict _ => "map"

def put (name : String) (f : Option Setting → Setting) :
    List (String × Setting) → List (String × Setting)
  | [] => [(name, f none)]
  | (n, v) :: rest =>
    if n = name then (n, f (some v)) :: rest
    else if name < n then (name, f none) :: (n, v) :: rest
    else (n, v) :: put name f rest

mutual

def merge (below : Setting) : Setting → Setting
  | dict members =>
    match below with
    | dict ms => dict (mergeMembers ms members)
    | _ => dict members
  | v => v

def mergeMembers (ms : List (String × Setting)) :
    List (String × Setting) → List (String × Setting)
  | [] => ms
  | (name, v) :: rest =>
    mergeMembers (put name (fun
      | some old => merge old v
      | none => v) ms) rest

end

mutual

def ofToml : Toml → Setting
  | .string s => string s
  | .int n => int n
  | .float x => float x
  | .bool b => bool b
  | .datetime s => dict [("$__toml_private_datetime", string s)]
  | .array items => list (ofItems items)
  | .table members => dict (ofMembers members [])

def ofItems : List Toml → List Setting
  | [] => []
  | v :: rest => ofToml v :: ofItems rest

def ofMembers : List (String × Toml) → List (String × Setting) → List (String × Setting)
  | [], ms => ms
  | (name, v) :: rest, ms => ofMembers rest (put name (fun _ => ofToml v) ms)

end

end Setting

abbrev SettingReader (α : Type) := Setting → Except SettingError α

namespace SettingReader

def failure {α : Type} (p : SettingProblem) : Except SettingError α :=
  .error ⟨[], p⟩

def within {α : Type} (name : String) : Except SettingError α → Except SettingError α
  | .error e => .error { e with path := name :: e.path }
  | .ok x => .ok x

def string : SettingReader String
  | .string s => .ok s
  | .char c => .ok (String.singleton c)
  | v => failure (.invalidType v.describe "a string")

def bool : SettingReader Bool
  | .bool b => .ok b
  | v => failure (.invalidType v.describe "a boolean")

def nat (type : String) (limit : Nat) : SettingReader Nat
  | .nat n => if n < limit then .ok n else failure (.invalidValue (Setting.nat n).describe type)
  | .int n =>
    if 0 ≤ n ∧ n < limit then .ok n.toNat
    else failure (.invalidValue (Setting.int n).describe type)
  | v => failure (.invalidType v.describe type)

def nat16 : SettingReader Nat := nat "u16" (Nat.pow 2 16)
def nat32 : SettingReader Nat := nat "u32" (Nat.pow 2 32)
def nat64 : SettingReader Nat := nat "u64" (Nat.pow 2 64)
def size : SettingReader Nat := nat "usize" (Nat.pow 2 64)

def single : SettingReader Binary
  | .nat n => .ok (Binary.ofNat .single n)
  | .int n => .ok (Binary.ofInt .single n)
  | .float x => .ok (x.convert .single)
  | v => failure (.invalidType v.describe "f32")

def optional {α : Type} (read : SettingReader α) : SettingReader (Option α)
  | .unset => .ok none
  | v => (read v).map some

inductive Variants where
  | alone
  | first
  deriving DecidableEq

def choice {α : Type} (variants : Variants) (type : String) (all : List α) (name : α → String) :
    SettingReader α := fun v =>
  let ofName (s : String) : Except SettingError α :=
    match all.find? fun x => name x = s with
    | some x => .ok x
    | none => failure (.unknownVariant s (all.map name))
  match v with
  | .string s => ofName s
  | .dict [] => failure (.invalidType (Setting.dict []).describe "enum")
  | .dict ((n, inner) :: rest) => do
    let x ← ofName n
    match variants, inner, rest with
    | .first, .unset, _ => return x
    | .alone, .dict [], [] => return x
    | .alone, .list [], [] => return x
    | _, _, _ => within n (failure (.invalidType inner.describe "unit"))
  | v => failure (.invalidType v.describe ("enum " ++ type))

abbrev Setter (α : Type) := String × (Setting → α → Except SettingError α)

def record {α : Type} (type : String) (fields : List (Setter α)) (default : α) : SettingReader α
  | .dict members =>
    members.foldlM (fun x (n, v) =>
      match fields.lookup n with
      | some f => within n (f v x)
      | none => .ok x) default
  | .list items =>
    ((fields.zip items).zipIdx).foldlM (fun x ((f, v), i) => within (toString i) (f.2 v x)) default
  | v => failure (.invalidType v.describe ("struct " ++ type))

def field {α β : Type} (name : String) (read : SettingReader β) (set : α → β → α) : Setter α :=
  (name, fun v x => (read v).map (set x))

end SettingReader

end PromptRelay
