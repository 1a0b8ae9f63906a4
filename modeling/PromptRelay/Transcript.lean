import PromptRelay.FileTree
import PromptRelay.Transcript.Event
import PromptRelay.Utf8.Sequence

namespace PromptRelay

def Json.sortMembers (members : List (String × Json)) : List (String × Json) :=
  members.mergeSort fun a b => !(b.1 < a.1)

namespace Event

def record (e : Event) (time : String) : Json :=
  .object (Json.sortMembers (("timestamp", .string time) :: e.members))

def recordBytes (e : Event) (time : String) : List UInt8 :=
  Utf8.encode (e.record time).chars ++ [0x0A]

end Event

namespace Transcript

/-- Opens a transcript for appending, with the directories around it: the place of its file. What
was made stays, even if the file cannot be opened. -/
def openFile (files : FileTree) (here : List String) (path : String) :
    FileTree × Option (List String) :=
  match files.makeDirectories (if Path.isAbsolute path then [] else here)
      (Path.names path).dropLast with
  | .error _ => (files, none)
  | .ok files =>
    match files.openFile here path with
    | .error _ => (files, none)
    | .ok (files, place) => (files, some place)

def log (files : FileTree) (place : List String) (time : String) (e : Event) : FileTree :=
  files.append place (e.recordBytes time)

end Transcript

end PromptRelay
