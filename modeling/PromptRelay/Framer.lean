import PromptRelay.Request
import PromptRelay.Text.Truncate

/-!
Finding requests in console output that comes in fragments. A request is the text between the last
mark of a line and the end of that line.
-/

namespace PromptRelay

def mark : List Char :=
  ['A', 'I', '_', 'R', 'E', 'Q', ':']

structure Framer where
  isPending : Bool := false
  /-- The part of the pending query that need not be searched again, last character first. -/
  searched : List Char := []
  /-- The end of the text so far, where a mark may have begun. -/
  window : List Char := []

namespace Framer

def buffered (f : Framer) : List Char :=
  f.searched.reverse ++ f.window

/-- Searches a text from left to right. `back` is what came since the last mark or completed frame,
last character first; the next `skip` characters belong to a mark. -/
def scan (pending : Bool) (back : List Char) : Nat → List Char → List Frame × Bool × List Char
  | _, [] => ([], pending, back)
  | skip + 1, _ :: s => scan pending back skip s
  | 0, c :: s =>
    if mark.isPrefixOf (c :: s) then scan true [] (mark.length - 1) s
    else if pending && c = '\n' then
      let (frames, rest) := scan false [] 0 s
      (Frame.ofText back.reverse :: frames, rest)
    else scan pending (c :: back) 0 s

def settle (pending : Bool) (back : List Char) : Framer :=
  let tail := Text.reachBytes (mark.length - 1) back
  { isPending := pending
    searched := if pending then back.drop tail.length else []
    window := tail.reverse }

def push (f : Framer) (fragment : List Char) : List Frame × Framer :=
  let (frames, pending, back) := scan f.isPending f.searched 0 (f.window ++ fragment)
  (frames, settle pending back)

end Framer

end PromptRelay
