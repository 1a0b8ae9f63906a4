import PromptRelay.Utf8.Sequence

/-!
Decoding bytes that come in pieces. A character cut by the end of a piece is held back until the
rest of it comes; bytes that belong to no character are dropped.
-/

namespace PromptRelay.Utf8

structure Decoder where
  held : List UInt8 := []

namespace Decoder

def isWaiting (d : Decoder) : Bool :=
  !d.held.isEmpty

def fresh (b : UInt8) : List Char × Decoder :=
  match shape [b] with
  | .whole c => ([c], {})
  | .start => ([], ⟨[b]⟩)
  | .broken => ([], {})

/-- One more byte. One that does not continue what is held back makes that be dropped, and is
looked at afresh. -/
def step (d : Decoder) (b : UInt8) : List Char × Decoder :=
  match shape (d.held ++ [b]) with
  | .whole c => ([c], {})
  | .start => ([], ⟨d.held ++ [b]⟩)
  | .broken => fresh b

def feed (d : Decoder) : List UInt8 → List Char × Decoder
  | [] => ([], d)
  | b :: bs =>
    let (cs, d) := d.step b
    let (rest, d) := d.feed bs
    (cs ++ rest, d)

theorem feed_append (d : Decoder) (xs ys : List UInt8) :
    d.feed (xs ++ ys) =
      ((d.feed xs).1 ++ ((d.feed xs).2.feed ys).1, ((d.feed xs).2.feed ys).2) := by
  induction xs generalizing d with
  | nil => simp [feed]
  | cons x xs ih => simp [feed, ih]

end Decoder

def decode? (bs : List UInt8) : Option (List Char) :=
  let s := (({} : Decoder).feed bs).1
  if encode s = bs then some s else none

end PromptRelay.Utf8
