import PromptRelay.Proofs.Session.Lifecycle
import PromptRelay.Proofs.Session.Promptness

namespace PromptRelay

def framesOf (events : List Event) : List Frame :=
  events.filterMap fun
    | .request _ query => some (.request ⟨query⟩)
    | .discarded _ => some .discarded
    | _ => none

def Phase.waiting : Phase → List Frame
  | .calling _ rest => rest
  | .writing _ _ rest => rest
  | .flushing _ rest => rest
  | _ => []

def Phase.TakesUp (text : List Char) (taken : List Frame) (summary : Summary) : Phase → Prop
  | .ended (.error _) => taken <+: lineFrames text
  | .ended (.ok final) => final = summary ∧ taken = lineFrames text ∧
    final.unterminatedBytes = ((openQuery? text).map Utf8.size).getD 0
  | phase => taken ++ phase.waiting = lineFrames text

theorem framesOf_append (xs ys : List Event) : framesOf (xs ++ ys) = framesOf xs ++ framesOf ys :=
  List.filterMap_append

theorem framesOf_takingSteps (peer : String) (frames : List Frame) :
    framesOf (eventsOf (takingSteps peer frames)) ++ (Phase.taking frames).waiting = frames := by
  induction frames with
  | nil => rfl
  | cons frame rest ih =>
    cases frame with
    | request r => rfl
    | discarded => exact congrArg (List.cons Frame.discarded) ih

variable {v : Service} {c : Connection} {m : Moment}

def Moment.text (c : Connection) (m : Moment) : List Char :=
  (Utf8.lenient (c.stream.take (readSize m.steps))).1

def Moment.TakesUp (c : Connection) (m : Moment) : Prop :=
  m.session.phase.TakesUp (m.text c) (framesOf (eventsOf m.steps)) m.session.summary

namespace Moment.TakesUp

theorem inPhase (h : m.TakesUp c) {p : Phase} (hp : m.session.phase = p) :
    p.TakesUp (m.text c) (framesOf (eventsOf m.steps)) m.session.summary := by
  subst hp
  exact h

theorem unread {steps : List Step} {left : Connection} {s : Session} (hread : readSize steps = 0)
    (h : s.phase.TakesUp (m.text c) (framesOf (eventsOf m.steps) ++ framesOf (eventsOf steps))
      s.summary) :
    (⟨m.steps ++ steps, left, s⟩ : Moment).TakesUp c := by
  rw [TakesUp, text, readSize_append, hread, eventsOf_append, framesOf_append]
  exact h

theorem quiet {steps : List Step} {left : Connection} {s : Session} (hread : readSize steps = 0)
    (hframes : framesOf (eventsOf steps) = [])
    (h : s.phase.TakesUp (m.text c) (framesOf (eventsOf m.steps)) s.summary) :
    (⟨m.steps ++ steps, left, s⟩ : Moment).TakesUp c := by
  apply unread hread
  rw [hframes, List.append_nil]
  exact h

theorem failed {rest : List Frame}
    (h : framesOf (eventsOf m.steps) ++ rest = lineFrames (m.text c)) {steps : List Step}
    (hread : readSize steps = 0) (hframes : framesOf (eventsOf steps) = []) (cause : String)
    (left : Connection) : (⟨m.steps ++ steps, left, m.session.fail cause⟩ : Moment).TakesUp c :=
  quiet hread hframes ⟨rest, h⟩

theorem taking {text : List Char} {taken frames : List Frame}
    (h : taken ++ frames = lineFrames text) (peer : String) (summary : Summary) :
    (Phase.taking frames).TakesUp text (taken ++ framesOf (eventsOf (takingSteps peer frames)))
      summary := by
  rw [← framesOf_takingSteps peer frames, ← List.append_assoc] at h
  rcases taking_cases frames with hp | ⟨r, rest, hp⟩
  · rw [hp] at h ⊢
    exact h
  · rw [hp] at h ⊢
    exact h

theorem received {bytes : List UInt8} (h : m.TakesUp c) (haccounts : Accounts v c bytes m)
    (hp : m.session.phase = .reading) {piece : List UInt8} (hne : piece ≠ []) {n : ℕ}
    (hread : (m.connection.read n).1 = .ok piece) :
    (⟨m.steps ++ (m.session.receive piece).1, (m.connection.read n).2,
      (m.session.receive piece).2⟩ : Moment).TakesUp c := by
  have htaken := h.inPhase hp
  have hbytes := (haccounts.received hp hne hread).take_readSize
  obtain ⟨hframes, -, -⟩ := Accounts.lineFrames_receive haccounts.decoder haccounts.framer piece
  have hevents : eventsOf (m.session.receive piece).1 = eventsOf (takingSteps m.session.peer
      (m.session.framer.push (m.session.decoder.feed piece).1).1) := by
    rw [m.session.receive_steps]
    split_ifs <;> rfl
  rw [TakesUp, text, hbytes, eventsOf_append, framesOf_append, hevents, m.session.receive_phase]
  apply taking
  rw [hframes, ← haccounts.take_readSize]
  exact congrArg (· ++ _) ((List.append_nil _).symm.trans htaken)

theorem closed {bytes : List UInt8} (h : m.TakesUp c) (haccounts : Accounts v c bytes m)
    (hp : m.session.phase = .reading) (left : Connection) :
    (⟨m.steps ++ m.session.close.1, left, m.session.close.2⟩ : Moment).TakesUp c := by
  have htaken := h.inPhase hp
  have hquery := haccounts.framer.openQuery?
  rw [← haccounts.take_readSize] at hquery
  obtain ⟨summary, dropped, character, -, hsteps⟩ := m.session.exists_close
  have hevents : framesOf (eventsOf m.session.close.1) = [] := by
    rw [hsteps, eventsOf_closingSteps]
    rfl
  refine quiet m.session.close_readSize hevents ⟨rfl, (List.append_nil _).symm.trans htaken, ?_⟩
  show (if m.session.framer.isPending then Utf8.size m.session.framer.buffered else 0) = _
  rw [text, hquery]
  cases m.session.framer.isPending <;> rfl

theorem next {bytes : List UInt8} (h : m.TakesUp c) (haccounts : Accounts v c bytes m) :
    (m.next v).TakesUp c := by
  obtain ⟨steps, left, s, hstep, hnext⟩ := m.exists_transition v
  rw [hnext]
  cases hstep with
  | opened hp =>
    have htaken := h.inPhase hp
    exact quiet rfl rfl htaken
  | closed hp hread => exact h.closed haccounts hp _
  | received hp hne hread => exact h.received haccounts hp hne hread
  | unread hp hread => exact failed (h.inPhase hp) rfl rfl _ _
  | @answered r rest reply hp hreply =>
    have htaken := h.inPhase hp
    have hevents : framesOf (eventsOf [.call (v.dispatch.call r), .event (Session.replyEvent
        m.session.peer reply.line (v.ask m.calls (v.dispatch.call r)).2 reply)]) = [] := by
      cases reply <;> rfl
    exact quiet rfl hevents htaken
  | refused hp hreply => exact quiet rfl rfl ⟨_, h.inPhase hp⟩
  | wrote hp hwrite hpos hlt =>
    have htaken := h.inPhase hp
    exact quiet rfl rfl htaken
  | wroteAll hp hwrite hpos hle =>
    have htaken := h.inPhase hp
    exact quiet rfl rfl htaken
  | wroteNothing hp hwrite => exact failed (h.inPhase hp) rfl rfl _ _
  | unwritten hp hwrite => exact failed (h.inPhase hp) rfl rfl _ _
  | @flushed line rest hp hflush =>
    have htaken := h.inPhase hp
    apply unread (m.session.sent_readSize line rest)
    rw [m.session.sent_steps, m.session.sent_phase]
    exact taking htaken m.session.peer _
  | unflushed hp hflush => exact failed (h.inPhase hp) rfl rfl _ _
  | ended hp =>
    rw [List.append_nil]
    exact h

end Moment.TakesUp

theorem takesUp_moment (v : Service) (peer : String) (c : Connection) (n : ℕ) :
    (v.moment peer c n).TakesUp c := by
  induction n with
  | zero =>
    rw [Moment.TakesUp, Moment.text]
    show [] = lineFrames (Utf8.lenient []).1
    rw [Utf8.lenient_nil, lineFrames, endedLines_of_not_mem List.not_mem_nil]
    rfl
  | succ n ih =>
    obtain ⟨bytes, haccounts⟩ := accounts_moment v peer c n
    rw [v.moment_succ]
    exact ih.next haccounts

end PromptRelay
