namespace PromptRelay

inductive FileTree.Node where
  | file (bytes : List UInt8)
  | directory
  deriving DecidableEq, Repr

structure FileTree where
  entries : List (List String × FileTree.Node) := []

inductive FileProblem where
  | missing
  | notDirectory
  | alreadyExists
  | isDirectory
  | nameTooLong
  deriving DecidableEq, Repr

def FileProblem.message : FileProblem → String
  | missing => "No such file or directory (os error 2)"
  | notDirectory => "Not a directory (os error 20)"
  | alreadyExists => "File exists (os error 17)"
  | isDirectory => "Is a directory (os error 21)"
  | nameTooLong => "File name too long (os error 36)"

namespace Path

def isAbsolute (path : String) : Bool :=
  path.toList.head? = some '/'

def splitFrom (name : List Char) : List Char → List String
  | [] => [String.ofList name.reverse]
  | c :: s =>
    if c = '/' then String.ofList name.reverse :: splitFrom [] s else splitFrom (c :: name) s

def parts (path : String) : List String :=
  splitFrom [] path.toList

def isHere (name : String) : Bool :=
  name = "" || name = "."

def join (directory path : String) : String :=
  if isAbsolute path || directory = "" then path
  else if directory.toList.getLast? = some '/' then directory ++ path
  else directory ++ "/" ++ path

def names (path : String) : List String :=
  (parts path).filter fun name => !isHere name

end Path

namespace FileTree

def get? (t : FileTree) (place : List String) : Option Node :=
  if place.isEmpty then some .directory else t.entries.lookup place

def set (t : FileTree) (place : List String) (node : Node) : FileTree :=
  ⟨(place, node) :: t.entries.filter fun e => e.1 ≠ place⟩

def addFile (t : FileTree) (place : List String) (bytes : List UInt8) : FileTree :=
  let around := ((List.range place.length).map place.take).foldl (fun (t : FileTree) p =>
    if (t.get? p).isSome then t else t.set p .directory) t
  around.set place (.file bytes)

def nameLimit : Nat := 255

def enter (t : FileTree) (place : List String) (name : String) :
    Except FileProblem (List String) :=
  match t.get? place with
  | none => .error .missing
  | some (.file _) => .error .notDirectory
  | some .directory =>
    if Path.isHere name then .ok place
    else if name = ".." then .ok place.dropLast
    else if nameLimit < name.utf8ByteSize then .error .nameTooLong
    else .ok (place ++ [name])

def walk (t : FileTree) (place : List String) (names : List String) :
    Except FileProblem (List String) :=
  names.foldlM t.enter place

def place (t : FileTree) (here : List String) (path : String) : Except FileProblem (List String) :=
  if path = "" then .error .missing
  else t.walk (if Path.isAbsolute path then [] else here) (Path.parts path)

def find? (t : FileTree) (here : List String) (path : String) : Option Node :=
  match t.place here path with
  | .ok p => t.get? p
  | .error _ => none

def pathExists (t : FileTree) (here : List String) (path : String) : Bool :=
  (t.find? here path).isSome

def readFile? (t : FileTree) (here : List String) (path : String) : Option (List UInt8) :=
  match t.find? here path with
  | some (.file bytes) => some bytes
  | _ => none

def makeDirectories (t : FileTree) (place : List String) :
    List String → Except FileProblem FileTree
  | [] => .ok t
  | name :: rest => do
    let p ← t.enter place name
    match t.get? p with
    | some .directory => t.makeDirectories p rest
    | some (.file _) => throw (if rest.isEmpty then .alreadyExists else .notDirectory)
    | none => (t.set p .directory).makeDirectories p rest

def makeDirectory (t : FileTree) (here : List String) (path : String) :
    Except FileProblem FileTree :=
  t.makeDirectories (if Path.isAbsolute path then [] else here) (Path.names path)

def openFile (t : FileTree) (here : List String) (path : String) :
    Except FileProblem (FileTree × List String) := do
  let p ← t.place here path
  match t.get? p with
  | some (.file _) => return (t, p)
  | some .directory => throw .isDirectory
  | none =>
    if t.get? p.dropLast = some .directory then return (t.set p (.file []), p)
    throw .missing

def append (t : FileTree) (place : List String) (bytes : List UInt8) : FileTree :=
  match t.get? place with
  | some (.file old) => t.set place (.file (old ++ bytes))
  | _ => t

end FileTree

end PromptRelay
