import PromptRelay.Proofs.Session.Exchanges
import PromptRelay.Proofs.Session.Moments

/-!
The chronicle of a session: all of its steps, in the order in which sessions take them. Between
requests it reads, shows what it has read and discards blank queries. A request is taken up, called
for, recorded, written and flushed before anything else is done.
-/

namespace PromptRelay

def takeUp (peer query : String) : List Step :=
  [.state .accumulating .dispatching, .preview (Text.truncate Session.previewSize query),
    .event (.request peer query)]

def takingSteps (peer : String) : List Frame → List Step
  | [] => []
  | .discarded :: rest => .event (.discarded peer) :: takingSteps peer rest
  | .request r :: _ => takeUp peer r.query

namespace Session

theorem handle_steps (s : Session) (frames : List Frame) :
    (s.handle frames).1 = takingSteps s.peer frames := by
  induction frames generalizing s with
  | nil => rfl
  | cons frame rest ih =>
    cases frame with
    | request r => rfl
    | discarded => simp only [handle, takingSteps, handle_session, ih]

theorem receive_steps (s : Session) (bytes : List UInt8) :
    (s.receive bytes).1 = .read bytes.length ::
      ((if (s.decoder.feed bytes).1.isEmpty then []
        else [.echo (String.ofList (s.decoder.feed bytes).1)]) ++
          takingSteps s.peer (s.framer.push (s.decoder.feed bytes).1).1) := by
  simp only [receive, handle_steps]

theorem sent_steps (s : Session) (line : Line) (rest : List Frame) :
    (s.sent line rest).1 =
      .flush :: .state .dispatching .accumulating :: takingSteps s.peer rest := by
  simp only [sent, handle_steps]

end Session

def Service.replySteps (v : Service) (peer : String) (earlier : List Call) (call : Call)
    (reply : Reply) : List Step :=
  takeUp peer call.query ++
    [.call call, .event (Session.replyEvent peer reply.line (v.ask earlier call).2 reply)]

/-- What a session has done when no request is open. The calls are listed latest first. -/
inductive Chronicle (v : Service) (peer : String) : List Call → List Step → Prop
  | opened : Chronicle v peer [] [.event (.sessionOpened peer)]
  | read {calls : List Call} {steps : List Step} {size : ℕ} (h : Chronicle v peer calls steps)
      (hsize : 0 < size) : Chronicle v peer calls (steps ++ [.read size])
  | echoed {calls : List Call} {steps : List Step} (h : Chronicle v peer calls steps)
      (text : String) : Chronicle v peer calls (steps ++ [.echo text])
  | discarded {calls : List Call} {steps : List Step} (h : Chronicle v peer calls steps) :
      Chronicle v peer calls (steps ++ [.event (.discarded peer)])
  | replied {earlier : List Call} {steps : List Step} {call : Call} {reply : Reply}
      {writes : List (List UInt8)} (h : Chronicle v peer earlier steps)
      (hreply : v.reply earlier call = .ok reply) (hwrites : writes.flatten = reply.line.bytes) :
      Chronicle v peer (call :: earlier)
        (steps ++ (v.replySteps peer earlier call reply ++
          (writes.map .write ++ [.flush, .state .dispatching .accumulating])))

inductive Replying (v : Service) (peer : String) (line : Line) (left : List UInt8) :
    List Call → List Step → Prop
  | intro {earlier : List Call} {steps : List Step} {call : Call} {reply : Reply}
      {writes : List (List UInt8)} (h : Chronicle v peer earlier steps)
      (hreply : v.reply earlier call = .ok reply) (hline : reply.line = line)
      (hwrites : writes.flatten ++ left = line.bytes) :
      Replying v peer line left (call :: earlier)
        (steps ++ (v.replySteps peer earlier call reply ++ writes.map .write))

inductive Faulted (v : Service) (peer : String) (fault : Fault) : List Call → List Step → Prop
  | intro {earlier : List Call} {steps : List Step} {call : Call}
      (h : Chronicle v peer earlier steps) (hreply : v.reply earlier call = .error fault) :
      Faulted v peer fault (call :: earlier)
        (steps ++ (takeUp peer call.query ++
          [.call call, .event (.fault peer fault.message)]))

def closingSteps (peer : String) (summary : Summary) (bytes : Option ℕ) (character : Bool) :
    List Step :=
  [.read 0, .state .accumulating .closed] ++ bytes.toList.map .droppedBytes ++
    (if character then [.droppedCharacter] else []) ++ [.event (.sessionClosed peer summary)]

theorem Session.exists_close (s : Session) : ∃ summary bytes character,
    s.close.2.phase = .ended (.ok summary) ∧
      s.close.1 = closingSteps s.peer summary bytes character := by
  refine ⟨_, if s.framer.isPending then some (Utf8.size s.framer.buffered) else none,
    s.decoder.isWaiting, rfl, ?_⟩
  cases hpending : s.framer.isPending <;> simp [Session.close, closingSteps, hpending]

def Phase.Chronicled (v : Service) (peer : String) (calls : List Call) (steps : List Step) :
    Phase → Prop
  | .opening => calls = [] ∧ steps = []
  | .reading => Chronicle v peer calls steps
  | .calling r _ => ∃ before, Chronicle v peer calls before ∧ steps = before ++ takeUp peer r.query
  | .writing line left _ => Replying v peer line left calls steps
  | .flushing line _ => Replying v peer line [] calls steps
  | .ended (.ok summary) => ∃ before bytes character, Chronicle v peer calls before ∧
      steps = before ++ closingSteps peer summary bytes character
  | .ended (.error (.io _)) =>
    Chronicle v peer calls steps ∨ ∃ line left, Replying v peer line left calls steps
  | .ended (.error (.backend fault)) => Faulted v peer fault calls steps

section

variable {v : Service} {peer : String} {calls : List Call} {steps : List Step}

theorem Chronicle.taking (h : Chronicle v peer calls steps) (frames : List Frame) :
    (Phase.taking frames).Chronicled v peer calls (steps ++ takingSteps peer frames) := by
  induction frames generalizing steps with
  | nil =>
    rw [takingSteps, List.append_nil]
    exact h
  | cons frame rest ih =>
    cases frame with
    | request r => exact ⟨steps, h, rfl⟩
    | discarded =>
      have hrest := ih h.discarded
      rw [List.append_assoc] at hrest
      exact hrest

theorem Chronicle.receive {s : Session} (h : Chronicle v s.peer calls steps) {bytes : List UInt8}
    (hne : bytes ≠ []) :
    (s.receive bytes).2.phase.Chronicled v s.peer calls (steps ++ (s.receive bytes).1) := by
  have hread := h.read (List.length_pos_iff.mpr hne)
  rw [Session.receive_phase, Session.receive_steps, ← List.singleton_append, ← List.append_assoc]
  split_ifs with hempty
  · exact hread.taking _
  · rw [← List.append_assoc]
    exact (hread.echoed _).taking _

theorem Chronicle.close {s : Session} (h : Chronicle v s.peer calls steps) :
    s.close.2.phase.Chronicled v s.peer calls (steps ++ s.close.1) := by
  obtain ⟨summary, bytes, character, hphase, hsteps⟩ := s.exists_close
  rw [hphase, hsteps]
  exact ⟨steps, bytes, character, h, rfl⟩

theorem Replying.write {line : Line} {left : List UInt8} (h : Replying v peer line left calls steps)
    (n : ℕ) : Replying v peer line (left.drop n) calls (steps ++ [.write (left.take n)]) := by
  obtain @⟨earlier, steps, call, reply, writes, h, hreply, hline, hwrites⟩ := h
  have hwrites' : (writes ++ [left.take n]).flatten ++ left.drop n = line.bytes := by
    rw [List.flatten_concat, List.append_assoc, List.take_append_drop, hwrites]
  have hnext := Replying.intro h hreply hline hwrites'
  rw [List.map_append, ← List.append_assoc, ← List.append_assoc] at hnext
  rw [← List.append_assoc]
  exact hnext

theorem Replying.flush {line : Line} (h : Replying v peer line [] calls steps) :
    Chronicle v peer calls (steps ++ [.flush, .state .dispatching .accumulating]) := by
  obtain ⟨h, hreply, hline, hwrites⟩ := h
  rw [List.append_nil, ← hline] at hwrites
  rw [List.append_assoc, List.append_assoc]
  exact h.replied hreply hwrites

end

namespace Session

theorem receive_peer (s : Session) (bytes : List UInt8) : (s.receive bytes).2.peer = s.peer := by
  simp only [receive, handle_session]

theorem sent_peer (s : Session) (line : Line) (rest : List Frame) :
    (s.sent line rest).2.peer = s.peer := by
  simp only [sent, handle_session]

end Session

structure Recorded (v : Service) (peer : String) (m : Moment) : Prop where
  peer_eq : m.session.peer = peer
  phase : m.session.phase.Chronicled v peer m.calls m.steps

namespace Recorded

variable {v : Service} {peer : String} {m : Moment}

theorem inPhase (h : Recorded v peer m) {p : Phase} (hp : m.session.phase = p) :
    p.Chronicled v m.session.peer m.calls m.steps := by
  subst hp
  rw [h.peer_eq]
  exact h.phase

theorem advance (h : Recorded v peer m) {steps : List Step} {left : Connection} {s : Session}
    (hpeer : s.peer = m.session.peer)
    (hphase : s.phase.Chronicled v m.session.peer (Session.callsAfter m.calls steps)
      (m.steps ++ steps)) :
    Recorded v peer ⟨m.steps ++ steps, left, s⟩ where
  peer_eq := hpeer.trans h.peer_eq
  phase := by
    rw [m.calls_append, ← h.peer_eq]
    exact hphase

theorem quiet (h : Recorded v peer m) {steps : List Step} {left : Connection} {s : Session}
    (hpeer : s.peer = m.session.peer) (hquiet : exchangeOf steps = [])
    (hphase : s.phase.Chronicled v m.session.peer m.calls (m.steps ++ steps)) :
    Recorded v peer ⟨m.steps ++ steps, left, s⟩ := by
  apply h.advance hpeer
  rw [Session.callsAfter_of_quiet hquiet]
  exact hphase

theorem failed (h : Recorded v peer m)
    (hsteps : Chronicle v m.session.peer m.calls m.steps ∨
      ∃ line left, Replying v m.session.peer line left m.calls m.steps)
    (cause : String) (left : Connection) :
    Recorded v peer ⟨m.steps ++ [], left, m.session.fail cause⟩ := by
  refine h.quiet rfl rfl ?_
  rw [List.append_nil]
  exact hsteps

theorem answered (h : Recorded v peer m) {r : Request} {rest : List Frame} {reply : Reply}
    (hp : m.session.phase = .calling r rest)
    (hreply : v.reply m.calls (v.dispatch.call r) = .ok reply) :
    Recorded v peer ⟨m.steps ++ [.call (v.dispatch.call r), .event (Session.replyEvent
        m.session.peer reply.line (v.ask m.calls (v.dispatch.call r)).2 reply)], m.connection,
      { m.session with phase := .writing reply.line reply.line.bytes rest }⟩ := by
  -- The call and its record complete what was begun when the request was taken up.
  obtain ⟨before, hbefore, hsteps⟩ := h.inPhase hp
  have hwrites : ([] : List (List UInt8)).flatten ++ reply.line.bytes = reply.line.bytes := rfl
  refine h.advance rfl ?_
  rw [hsteps, List.append_assoc]
  exact .intro hbefore hreply rfl hwrites

theorem refused (h : Recorded v peer m) {r : Request} {rest : List Frame} {fault : Fault}
    (hp : m.session.phase = .calling r rest)
    (hreply : v.reply m.calls (v.dispatch.call r) = .error fault) :
    Recorded v peer ⟨m.steps ++ [.call (v.dispatch.call r),
        .event (.fault m.session.peer fault.message)], m.connection,
      { m.session with phase := .ended (.error (.backend fault)) }⟩ := by
  obtain ⟨before, hbefore, hsteps⟩ := h.inPhase hp
  refine h.advance rfl ?_
  rw [hsteps, List.append_assoc]
  exact .intro hbefore hreply

theorem flushed (h : Recorded v peer m) {line : Line} {rest : List Frame}
    (hp : m.session.phase = .flushing line rest) :
    Recorded v peer ⟨m.steps ++ (m.session.sent line rest).1, m.connection.flush.2,
      (m.session.sent line rest).2⟩ := by
  have hflushed := (h.inPhase hp).flush.taking rest
  refine h.advance (Session.sent_peer _ _ _) ?_
  rw [← Session.callsAfter_exchangeOf, Session.sent_exchangeOf, Session.sent_phase,
    Session.sent_steps]
  rw [List.append_assoc] at hflushed
  exact hflushed

theorem next (h : Recorded v peer m) : Recorded v peer (m.next v) := by
  obtain ⟨steps, left, s, hstep, hnext⟩ := m.exists_transition v
  rw [hnext]
  cases hstep with
  | opened hp =>
    obtain ⟨hcalls, hsteps⟩ := h.inPhase hp
    refine h.quiet rfl rfl ?_
    rw [hcalls, hsteps]
    exact .opened
  | closed hp hread => exact h.quiet rfl (Session.close_exchangeOf _) (h.inPhase hp).close
  | received hp hne hread =>
    exact h.quiet (Session.receive_peer _ _) (Session.receive_exchangeOf _ _)
      ((h.inPhase hp).receive hne)
  | unread hp hread => exact h.failed (.inl (h.inPhase hp)) _ _
  | answered hp hreply => exact h.answered hp hreply
  | refused hp hreply => exact h.refused hp hreply
  | wrote hp hwrite hpos hlt => exact h.advance rfl ((h.inPhase hp).write _)
  | @wroteAll line left rest n hp hwrite hpos hle =>
    have hall := (h.inPhase hp).write left.length
    rw [List.take_length, List.drop_length] at hall
    exact h.advance rfl hall
  | wroteNothing hp hwrite => exact h.advance rfl (.inr ⟨_, _, (h.inPhase hp).write 0⟩)
  | unwritten hp hwrite => exact h.failed (.inr ⟨_, _, h.inPhase hp⟩) _ _
  | flushed hp hflush => exact h.flushed hp
  | unflushed hp hflush => exact h.failed (.inr ⟨_, _, h.inPhase hp⟩) _ _
  | ended hp => simpa using h

end Recorded

theorem recorded_moment (v : Service) (peer : String) (c : Connection) (n : ℕ) :
    Recorded v peer (v.moment peer c n) := by
  induction n with
  | zero => exact ⟨rfl, rfl, rfl⟩
  | succ n ih =>
    rw [v.moment_succ]
    exact ih.next

theorem chronicled_serve (v : Service) (peer : String) (c : Connection) :
    let (steps, result) := v.serve peer c
    (Phase.ended result).Chronicled v peer (Session.callsAfter [] steps) steps := by
  obtain ⟨n, hsteps, hended⟩ := v.exists_moment_serve peer c
  have hrecorded := recorded_moment v peer c n
  have hphase := hrecorded.inPhase hended
  rw [hrecorded.peer_eq, Moment.calls, hsteps] at hphase
  exact hphase

end PromptRelay
