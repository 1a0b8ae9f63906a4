import PromptRelay.Proofs.Framer.LineRefinement
import PromptRelay.Proofs.Session.Moments
import PromptRelay.Proofs.Utf8.LenientDecoding

namespace PromptRelay

/-- The queries of a text: of each ended line with a mark, what follows the last one, without white
space around it. Blank ones are left out. -/
def lineQueries (s : List Char) : List String :=
  ((endedLines s).filterMap afterMark?).filterMap fun raw =>
    if raw.all Unicode.isWhiteSpace then none else some (String.ofList (Unicode.trim raw))

namespace Dispatch

def callsFor (d : Dispatch) (bytes : List UInt8) : List Call :=
  (lineQueries (Utf8.lenient bytes).1).map fun query => ⟨query, d.systemPrompt, d.sampling⟩

def callsOf (d : Dispatch) : List Frame → List Call
  | [] => []
  | .request r :: rest => d.call r :: d.callsOf rest
  | .discarded :: rest => d.callsOf rest

theorem callsOf_append (d : Dispatch) (xs ys : List Frame) :
    d.callsOf (xs ++ ys) = d.callsOf xs ++ d.callsOf ys := by
  induction xs with
  | nil => rfl
  | cons x xs ih => cases x <;> simp [callsOf, ih]

theorem callsOf_filterMap (d : Dispatch) (lines : List (List Char)) :
    d.callsOf (lines.filterMap lineFrame?) =
      ((lines.filterMap afterMark?).filterMap fun raw =>
        if raw.all Unicode.isWhiteSpace then none
        else some (String.ofList (Unicode.trim raw))).map
          fun query => ⟨query, d.systemPrompt, d.sampling⟩ := by
  induction lines with
  | nil => rfl
  | cons line lines ih =>
    cases hmark : afterMark? line with
    | none => simpa [lineFrame?, hmark] using ih
    | some raw =>
      by_cases hblank : raw.all Unicode.isWhiteSpace = true
      · simp only [List.filterMap_cons, lineFrame?, hmark, Option.map_some, if_pos hblank, callsOf]
        exact ih
      · simp only [List.filterMap_cons, lineFrame?, hmark, Option.map_some, if_neg hblank, callsOf,
          List.map_cons]
        exact congrArg _ ih

theorem callsOf_lineFrames (d : Dispatch) (bytes : List UInt8) :
    d.callsOf (lineFrames (Utf8.lenient bytes).1) = d.callsFor bytes :=
  d.callsOf_filterMap _

end Dispatch

/-- Exchanges that are over: of each of the calls, latest first, the whole line has been written
and flushed, before the next of them is made. -/
inductive Exchanges (v : Service) : List Call → List Step → Prop
  | nil : Exchanges v [] []
  | snoc {earlier : List Call} {steps : List Step} {call : Call} {reply : Reply}
      {writes : List (List UInt8)} (h : Exchanges v earlier steps)
      (hreply : v.reply earlier call = .ok reply) (hwrites : writes.flatten = reply.line.bytes) :
      Exchanges v (call :: earlier) (steps ++ .call call :: (writes.map .write ++ [.flush]))

inductive Underway (v : Service) (line : Line) (left : List UInt8) : List Call → List Step → Prop
  | intro {earlier : List Call} {steps : List Step} {call : Call} {reply : Reply}
      {writes : List (List UInt8)} (h : Exchanges v earlier steps)
      (hreply : v.reply earlier call = .ok reply) (hline : reply.line = line)
      (hwrites : writes.flatten ++ left = line.bytes) :
      Underway v line left (call :: earlier) (steps ++ .call call :: writes.map .write)

inductive Refused (v : Service) (fault : Fault) : List Call → List Step → Prop
  | intro {earlier : List Call} {steps : List Step} {call : Call} (h : Exchanges v earlier steps)
      (hreply : v.reply earlier call = .error fault) :
      Refused v fault (call :: earlier) (steps ++ [.call call])

section

variable {v : Service} {calls : List Call} {steps : List Step}

theorem Exchanges.call {call : Call} {reply : Reply} (h : Exchanges v calls steps)
    (hreply : v.reply calls call = .ok reply) :
    Underway v reply.line reply.line.bytes (call :: calls) (steps ++ [.call call]) := by
  have hwrites : ([] : List (List UInt8)).flatten ++ reply.line.bytes = reply.line.bytes := rfl
  exact .intro h hreply rfl hwrites

theorem Underway.write {line : Line} {left : List UInt8} (h : Underway v line left calls steps)
    (n : ℕ) : Underway v line (left.drop n) calls (steps ++ [.write (left.take n)]) := by
  cases h with
  | @intro earlier steps call reply writes h hreply hline hwrites =>
    have hwrites' : (writes ++ [left.take n]).flatten ++ left.drop n = line.bytes := by
      rw [List.flatten_concat, List.append_assoc, List.take_append_drop, hwrites]
    have hnext := Underway.intro h hreply hline hwrites'
    rw [List.map_append] at hnext
    rw [List.append_assoc]
    exact hnext

theorem Underway.flush {line : Line} (h : Underway v line [] calls steps) :
    Exchanges v calls (steps ++ [.flush]) := by
  obtain ⟨h, hreply, hline, hwrites⟩ := h
  rw [List.append_nil, ← hline] at hwrites
  rw [List.append_assoc]
  exact h.snoc hreply hwrites

end

def Phase.Stands (v : Service) (calls : List Call) (steps : List Step) : Phase → Prop
  | .writing line left _ => Underway v line left calls steps
  | .flushing line _ => Underway v line [] calls steps
  | .ended (.error (.io _)) =>
    Exchanges v calls steps ∨ ∃ line left, Underway v line left calls steps
  | .ended (.error (.backend fault)) => Refused v fault calls steps
  | _ => Exchanges v calls steps

def Phase.ahead : Phase → List Frame
  | .calling r rest => .request r :: rest
  | .writing _ _ rest => rest
  | .flushing _ rest => rest
  | _ => []

/-- The calls made, latest first, and those ahead are all that are asked for. A session that fails
has made the first of them. -/
def Phase.Owes (d : Dispatch) (asked made : List Call) : Phase → Prop
  | .ended (.error _) => made.reverse <+: asked
  | phase => made.reverse ++ d.callsOf phase.ahead = asked

theorem Phase.Owes.made_prefix {d : Dispatch} {asked made : List Call} {phase : Phase}
    (h : phase.Owes d asked made) : made.reverse <+: asked := by
  unfold Owes at h
  split at h
  · exact h
  · exact ⟨_, h⟩

theorem Phase.Owes.call {d : Dispatch} {asked made : List Call} {r : Request} {rest : List Frame}
    (h : (Phase.calling r rest).Owes d asked made) :
    (d.call r :: made).reverse ++ d.callsOf rest = asked := by
  rw [List.reverse_cons, List.append_assoc]
  exact h

theorem callsOf_taking (d : Dispatch) (frames : List Frame) :
    d.callsOf (Phase.taking frames).ahead = d.callsOf frames := by
  induction frames with
  | nil => rfl
  | cons frame rest ih =>
    cases frame with
    | request r => rfl
    | discarded => exact ih

theorem taking_cases (frames : List Frame) :
    Phase.taking frames = .reading ∨ ∃ r rest, Phase.taking frames = .calling r rest := by
  induction frames with
  | nil => exact .inl rfl
  | cons frame rest ih =>
    cases frame with
    | request r => exact .inr ⟨r, rest, rfl⟩
    | discarded => exact ih

theorem stands_taking {v : Service} {calls : List Call} {steps : List Step}
    (h : Exchanges v calls steps) (frames : List Frame) :
    (Phase.taking frames).Stands v calls steps := by
  rcases taking_cases frames with hp | ⟨r, rest, hp⟩
  · rw [hp]; exact h
  · rw [hp]; exact h

theorem owes_taking {d : Dispatch} {asked made : List Call} {frames : List Frame}
    (h : made.reverse ++ d.callsOf frames = asked) :
    (Phase.taking frames).Owes d asked made := by
  rw [← callsOf_taking] at h
  rcases taking_cases frames with hp | ⟨r, rest, hp⟩
  · rw [hp] at h ⊢; exact h
  · rw [hp] at h ⊢; exact h

end PromptRelay
