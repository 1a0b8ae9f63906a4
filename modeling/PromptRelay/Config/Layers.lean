import PromptRelay.Config.Reader
import PromptRelay.Config.Variables
import PromptRelay.FileTree
import PromptRelay.Utf8.Decoder

/-!
Where the configuration comes from: files of the user, of the project and of the command line, and
environment variables. Each layer overrides those before it, setting by setting.
-/

namespace PromptRelay

structure Surroundings where
  files : FileTree
  here : List String
  environment : List (String × String)

namespace Surroundings

def value? (w : Surroundings) (name : String) : Option String :=
  w.environment.lookup name

def pathExists (w : Surroundings) (path : String) : Bool :=
  w.files.pathExists w.here path

def configDirectory? (w : Surroundings) : Option String :=
  match w.value? "XDG_CONFIG_HOME" with
  | some d => if Path.isAbsolute d then some d else home
  | none => home
where
  home := match w.value? "HOME" with
    | some d => if d = "" then none else some (Path.join d ".config")
    | none => none

end Surroundings

namespace Config

def globalPath? (w : Surroundings) : Option String :=
  w.configDirectory?.map fun d => Path.join (Path.join d "kernel-bridge") "config.toml"

def projectNames : List String :=
  ["kernel-bridge.toml", ".kernel-bridge.toml"]

def projectPath? (w : Surroundings) : Option String :=
  projectNames.find? w.pathExists

/-- The bytes of the file that a path of a layer stands for. A relative path is looked for in the
working directory and then in those around it. -/
def layerFile? (w : Surroundings) (path : String) : Option (List UInt8) :=
  if Path.isAbsolute path then w.files.readFile? [] path
  else (List.range (w.here.length + 1)).findSome? fun up =>
    w.files.readFile? (w.here.take (w.here.length - up)) path

def fileSettings? (bytes : List UInt8) : Option Setting := do
  let s ← Utf8.decode? bytes
  let members ← Toml.read? (String.ofList s)
  return Setting.ofToml (.table members)

def layerSettings? (w : Surroundings) (path : String) : Option Setting :=
  match layerFile? w path with
  | none => some (.dict [])
  | some bytes => fileSettings? bytes

def layerPaths (w : Surroundings) (explicit : Option String) : List String :=
  ((globalPath? w).filter w.pathExists).toList ++ (projectPath? w).toList ++ explicit.toList

def mergeLayers : List Setting → Setting :=
  List.foldl Setting.merge (.dict [])

def load (w : Surroundings) (explicit : Option String) : Except SettingError Config :=
  match (layerPaths w explicit).mapM (layerSettings? w) with
  | none => .error ⟨[], .malformed⟩
  | some layers => ofSetting .first (mergeLayers (layers ++ [Variables.settings w.environment]))

def sources (w : Surroundings) (explicit : Option String) : List (String × Bool) :=
  (explicit.map fun p => ("Explicit: " ++ p, w.pathExists p)).toList
    ++ [match projectPath? w with
      | some p => ("Project: " ++ p, true)
      | none => ("Project: " ++ " or ".intercalate (projectNames.map ("./" ++ ·)), false)]
    ++ ((globalPath? w).map fun p => ("Global:  " ++ p, w.pathExists p)).toList
    ++ [("Env:     " ++ Variables.start ++ "*", true)]

end Config

end PromptRelay
