import PromptRelay.Proofs.Connection.Stream
import PromptRelay.Proofs.Session.Exchanges

/-!
A session accounts at each moment for all the bytes that it has read. When it reads again, nothing
that they ask for is left to be done.
-/

namespace PromptRelay

def Phase.Leaves (v : Service) (c : Connection) (bytes : List UInt8) (left : Connection) :
    Phase → Prop
  | .ended (.ok _) => 0 < v.dispatch.readBufferSize → c.stream = bytes ∧ c.failure? = none
  | .ended (.error _) => True
  | _ => c.stream = bytes ++ left.stream ∧ c.failure? = left.failure?

/-- The session has read `bytes` of the stream and accounts for all of them: what is held back of
them, what they ask for, and how far the exchanges have come. -/
structure Accounts (v : Service) (c : Connection) (bytes : List UInt8) (m : Moment) : Prop where
  size : readSize m.steps = bytes.length
  start : bytes <+: c.stream
  leaves : m.session.phase.Leaves v c bytes m.connection
  decoder : m.session.decoder = ⟨(Utf8.lenient bytes).2⟩
  framer : m.session.framer.Follows (Utf8.lenient bytes).1
  owes : m.session.phase.Owes v.dispatch (v.dispatch.callsFor bytes) m.calls
  stands : m.session.phase.Stands v m.calls (exchangeOf m.steps)

/-- All that the bytes read so far ask for has been called, in order, and each of the lines has been
written and flushed. -/
def Service.Served (v : Service) (c : Connection) (steps : List Step) : Prop :=
  (Session.callsAfter [] steps).reverse =
      v.dispatch.callsFor (c.stream.take (readSize steps)) ∧
    Exchanges v (Session.callsAfter [] steps) (exchangeOf steps)

namespace Accounts

variable {v : Service} {c : Connection} {bytes : List UInt8} {m : Moment}

theorem take_readSize (h : Accounts v c bytes m) : c.stream.take (readSize m.steps) = bytes := by
  rw [h.size]
  exact List.prefix_iff_eq_take.mp h.start |>.symm

theorem inPhase (h : Accounts v c bytes m) {p : Phase} (hp : m.session.phase = p) :
    p.Leaves v c bytes m.connection ∧ p.Owes v.dispatch (v.dispatch.callsFor bytes) m.calls ∧
      p.Stands v m.calls (exchangeOf m.steps) := by
  subst hp
  exact ⟨h.leaves, h.owes, h.stands⟩

theorem served (h : Accounts v c bytes m) (hp : m.session.phase = .reading) :
    v.Served c m.steps := by
  obtain ⟨-, howes, hstands⟩ := h.inPhase hp
  refine ⟨?_, hstands⟩
  rw [h.take_readSize, ← howes]
  exact (List.append_nil _).symm

theorem advance (h : Accounts v c bytes m) {steps : List Step} {left : Connection} {s : Session}
    (hread : readSize steps = 0) (hdecoder : s.decoder = m.session.decoder)
    (hframer : s.framer = m.session.framer) (hleaves : s.phase.Leaves v c bytes left)
    (howes : s.phase.Owes v.dispatch (v.dispatch.callsFor bytes)
      (Session.callsAfter m.calls (exchangeOf steps)))
    (hstands : s.phase.Stands v (Session.callsAfter m.calls (exchangeOf steps))
      (exchangeOf m.steps ++ exchangeOf steps)) :
    Accounts v c bytes ⟨m.steps ++ steps, left, s⟩ where
  size := by rw [readSize_append, hread, h.size, Nat.add_zero]
  start := h.start
  leaves := hleaves
  decoder := hdecoder.trans h.decoder
  framer := by rw [hframer]; exact h.framer
  owes := by
    rw [Session.callsAfter_exchangeOf] at howes
    rw [m.calls_append]
    exact howes
  stands := by
    rw [Session.callsAfter_exchangeOf] at hstands
    rw [m.calls_append, exchangeOf_append]
    exact hstands

theorem quiet (h : Accounts v c bytes m) {steps : List Step} {left : Connection} {s : Session}
    (hquiet : exchangeOf steps = []) (hread : readSize steps = 0)
    (hdecoder : s.decoder = m.session.decoder) (hframer : s.framer = m.session.framer)
    (hleaves : s.phase.Leaves v c bytes left)
    (howes : s.phase.Owes v.dispatch (v.dispatch.callsFor bytes) m.calls)
    (hstands : s.phase.Stands v m.calls (exchangeOf m.steps)) :
    Accounts v c bytes ⟨m.steps ++ steps, left, s⟩ := by
  apply h.advance hread hdecoder hframer hleaves
  · rw [hquiet]
    exact howes
  · rw [hquiet, List.append_nil]
    exact hstands

theorem leaves_taking {left : Connection}
    (h : c.stream = bytes ++ left.stream ∧ c.failure? = left.failure?) (frames : List Frame) :
    (Phase.taking frames).Leaves v c bytes left := by
  rcases taking_cases frames with hp | ⟨r, rest, hp⟩
  · rw [hp]; exact h
  · rw [hp]; exact h

theorem lineFrames_receive {decoder : Utf8.Decoder} {framer : Framer}
    (hdecoder : decoder = ⟨(Utf8.lenient bytes).2⟩) (hframer : framer.Follows (Utf8.lenient bytes).1)
    (piece : List UInt8) :
    lineFrames (Utf8.lenient (bytes ++ piece)).1 =
        lineFrames (Utf8.lenient bytes).1 ++ (framer.push (decoder.feed piece).1).1 ∧
      (decoder.feed piece).2 = ⟨(Utf8.lenient (bytes ++ piece)).2⟩ ∧
      (framer.push (decoder.feed piece).1).2.Follows (Utf8.lenient (bytes ++ piece)).1 := by
  obtain ⟨htext, hheld⟩ := Utf8.Decoder.lenient_append bytes piece
  rw [← hdecoder] at htext hheld
  obtain ⟨hframes, hfollows⟩ := hframer.push (decoder.feed piece).1
  rw [← htext] at hframes hfollows
  exact ⟨hframes, hheld, hfollows⟩

theorem callsFor_receive {s : Session} (d : Dispatch)
    (hdecoder : s.decoder = ⟨(Utf8.lenient bytes).2⟩)
    (hframer : s.framer.Follows (Utf8.lenient bytes).1) (piece : List UInt8) :
    d.callsFor (bytes ++ piece) =
        d.callsFor bytes ++ d.callsOf (s.framer.push (s.decoder.feed piece).1).1 ∧
      (s.receive piece).2.decoder = ⟨(Utf8.lenient (bytes ++ piece)).2⟩ ∧
      (s.receive piece).2.framer.Follows (Utf8.lenient (bytes ++ piece)).1 := by
  obtain ⟨hframes, hheld, hfollows⟩ := lineFrames_receive hdecoder hframer piece
  refine ⟨?_, ?_, ?_⟩
  · rw [← d.callsOf_lineFrames, hframes, d.callsOf_append, d.callsOf_lineFrames]
  · rw [s.receive_decoder, hheld]
  · rw [s.receive_framer]
    exact hfollows

theorem received (h : Accounts v c bytes m) (hp : m.session.phase = .reading)
    {piece : List UInt8} (hne : piece ≠ []) {n : ℕ} (hread : (m.connection.read n).1 = .ok piece) :
    Accounts v c (bytes ++ piece) ⟨m.steps ++ (m.session.receive piece).1,
      (m.connection.read n).2, (m.session.receive piece).2⟩ := by
  obtain ⟨⟨hstream, hfailure⟩, howes, hstands⟩ := h.inPhase hp
  obtain ⟨hfront, hfailure'⟩ := Connection.stream_read hne hread
  rw [hfront, ← List.append_assoc] at hstream
  obtain ⟨hasked, hdecoder, hframer⟩ := callsFor_receive v.dispatch h.decoder h.framer piece
  have hcalls : Session.callsAfter m.calls (m.session.receive piece).1 = m.calls :=
    Session.callsAfter_of_quiet (Session.receive_exchangeOf _ _) m.calls
  refine ⟨?_, ?_, ?_, hdecoder, hframer, ?_, ?_⟩
  · rw [readSize_append, Session.receive_readSize, h.size, List.length_append]
  · exact ⟨_, hstream.symm⟩
  · rw [Session.receive_phase]
    exact leaves_taking ⟨hstream, hfailure.trans hfailure'⟩ _
  · rw [Session.receive_phase, m.calls_append]
    apply owes_taking
    rw [hasked, ← howes]
    simp only [Phase.ahead, Dispatch.callsOf, List.append_nil]
    exact congrArg (fun calls => calls.reverse ++ _) hcalls
  · rw [Session.receive_phase, m.calls_append, exchangeOf_append,
      Session.receive_exchangeOf, List.append_nil]
    apply stands_taking
    rw [hcalls]
    exact hstands

theorem closed (h : Accounts v c bytes m) (hp : m.session.phase = .reading)
    (hread : (m.connection.read v.dispatch.readBufferSize).1 = .ok []) :
    Accounts v c bytes ⟨m.steps ++ m.session.close.1,
      (m.connection.read v.dispatch.readBufferSize).2, m.session.close.2⟩ := by
  obtain ⟨⟨hstream, hfailure⟩, howes, hstands⟩ := h.inPhase hp
  apply h.quiet (s := m.session.close.2) (Session.close_exchangeOf _) (Session.close_readSize _)
    rfl rfl _ howes hstands
  intro hpos
  obtain ⟨hend, hsound⟩ := Connection.stream_of_read_nil hpos hread
  rw [hend, List.append_nil] at hstream
  exact ⟨hstream, hfailure.trans hsound⟩

theorem opened (h : Accounts v c bytes m) (hp : m.session.phase = .opening) (e : Event) :
    Accounts v c bytes
      ⟨m.steps ++ [.event e], m.connection, { m.session with phase := .reading }⟩ := by
  obtain ⟨hleaves, howes, hstands⟩ := h.inPhase hp
  exact h.quiet rfl rfl rfl rfl hleaves howes hstands

theorem failed (h : Accounts v c bytes m)
    (hstands : Exchanges v m.calls (exchangeOf m.steps) ∨
      ∃ line left, Underway v line left m.calls (exchangeOf m.steps))
    (cause : String) (left : Connection) :
    Accounts v c bytes ⟨m.steps ++ [], left, m.session.fail cause⟩ :=
  h.quiet rfl rfl rfl rfl trivial h.owes.made_prefix hstands

theorem wroteNothing (h : Accounts v c bytes m) {line : Line} {left : List UInt8}
    {rest : List Frame} (hp : m.session.phase = .writing line left rest) (cause : String) :
    Accounts v c bytes
      ⟨m.steps ++ [.write []], (m.connection.write left).2, m.session.fail cause⟩ := by
  obtain ⟨-, -, hstands⟩ := h.inPhase hp
  exact h.advance rfl rfl rfl trivial h.owes.made_prefix (.inr ⟨line, left, hstands.write 0⟩)

theorem answered (h : Accounts v c bytes m) {r : Request} {rest : List Frame} {reply : Reply}
    (hp : m.session.phase = .calling r rest)
    (hreply : v.reply m.calls (v.dispatch.call r) = .ok reply) (e : Event) :
    Accounts v c bytes ⟨m.steps ++ [.call (v.dispatch.call r), .event e], m.connection,
      { m.session with phase := .writing reply.line reply.line.bytes rest }⟩ := by
  obtain ⟨hleaves, howes, hstands⟩ := h.inPhase hp
  exact h.advance rfl rfl rfl hleaves howes.call (hstands.call hreply)

theorem refused (h : Accounts v c bytes m) {r : Request} {rest : List Frame} {fault : Fault}
    (hp : m.session.phase = .calling r rest)
    (hreply : v.reply m.calls (v.dispatch.call r) = .error fault) (e : Event) :
    Accounts v c bytes ⟨m.steps ++ [.call (v.dispatch.call r), .event e], m.connection,
      { m.session with phase := .ended (.error (.backend fault)) }⟩ := by
  obtain ⟨-, howes, hstands⟩ := h.inPhase hp
  exact h.advance rfl rfl rfl trivial ⟨_, howes.call⟩ (.intro hstands hreply)

theorem wrote (h : Accounts v c bytes m) {line : Line} {left : List UInt8} {rest : List Frame}
    (hp : m.session.phase = .writing line left rest) (n : ℕ) :
    Accounts v c bytes ⟨m.steps ++ [.write (left.take n)], (m.connection.write left).2,
      { m.session with phase := .writing line (left.drop n) rest }⟩ := by
  obtain ⟨hleaves, howes, hstands⟩ := h.inPhase hp
  exact h.advance rfl rfl rfl hleaves howes (hstands.write n)

theorem wroteAll (h : Accounts v c bytes m) {line : Line} {left : List UInt8} {rest : List Frame}
    (hp : m.session.phase = .writing line left rest) :
    Accounts v c bytes ⟨m.steps ++ [.write left], (m.connection.write left).2,
      { m.session with phase := .flushing line rest }⟩ := by
  obtain ⟨hleaves, howes, hstands⟩ := h.inPhase hp
  have hall := hstands.write left.length
  rw [List.take_length, List.drop_length] at hall
  exact h.advance rfl rfl rfl hleaves howes hall

theorem flushed (h : Accounts v c bytes m) {line : Line} {rest : List Frame}
    (hp : m.session.phase = .flushing line rest) :
    Accounts v c bytes ⟨m.steps ++ (m.session.sent line rest).1, m.connection.flush.2,
      (m.session.sent line rest).2⟩ := by
  obtain ⟨hleaves, howes, hstands⟩ := h.inPhase hp
  refine h.advance (Session.sent_readSize _ _ _) (Session.sent_decoder _ _ _)
    (Session.sent_framer _ _ _) ?_ ?_ ?_
  · rw [Session.sent_phase]
    exact leaves_taking hleaves rest
  · rw [Session.sent_phase, Session.sent_exchangeOf]
    exact owes_taking howes
  · rw [Session.sent_phase, Session.sent_exchangeOf]
    exact stands_taking hstands.flush rest

theorem next (h : Accounts v c bytes m) : ∃ bytes, Accounts v c bytes (m.next v) := by
  obtain ⟨steps, left, s, hstep, hnext⟩ := m.exists_transition v
  rw [hnext]
  cases hstep with
  | opened hp => exact ⟨bytes, h.opened hp _⟩
  | closed hp hread => exact ⟨bytes, h.closed hp hread⟩
  | received hp hne hread => exact ⟨_, h.received hp hne hread⟩
  | unread hp hread =>
    obtain ⟨-, -, hstands⟩ := h.inPhase hp
    exact ⟨bytes, h.failed (.inl hstands) _ _⟩
  | answered hp hreply => exact ⟨bytes, h.answered hp hreply _⟩
  | refused hp hreply => exact ⟨bytes, h.refused hp hreply _⟩
  | wrote hp hwrite hpos hlt => exact ⟨bytes, h.wrote hp _⟩
  | wroteAll hp hwrite hpos hle => exact ⟨bytes, h.wroteAll hp⟩
  | wroteNothing hp hwrite => exact ⟨bytes, h.wroteNothing hp _⟩
  | unwritten hp hwrite =>
    obtain ⟨-, -, hstands⟩ := h.inPhase hp
    exact ⟨bytes, h.failed (.inr ⟨_, _, hstands⟩) _ _⟩
  | flushed hp hflush => exact ⟨bytes, h.flushed hp⟩
  | unflushed hp hflush =>
    obtain ⟨-, -, hstands⟩ := h.inPhase hp
    exact ⟨bytes, h.failed (.inr ⟨_, _, hstands⟩) _ _⟩
  | ended hp => exact ⟨bytes, by simpa using h⟩

end Accounts

theorem callsFor_nil (d : Dispatch) : d.callsFor [] = [] := by
  rw [Dispatch.callsFor, Utf8.lenient_nil, lineQueries, endedLines_of_not_mem List.not_mem_nil]
  rfl

section Moments

variable (v : Service) (peer : String) (c : Connection)

theorem accounts_moment_zero : Accounts v c [] (v.moment peer c 0) where
  size := rfl
  start := List.nil_prefix
  leaves := ⟨rfl, rfl⟩
  decoder := by rw [Utf8.lenient_nil]; rfl
  framer := by rw [Utf8.lenient_nil]; exact Framer.follows_empty
  owes := (callsFor_nil v.dispatch).symm
  stands := .nil

theorem accounts_moment (n : ℕ) : ∃ bytes, Accounts v c bytes (v.moment peer c n) := by
  induction n with
  | zero => exact ⟨[], accounts_moment_zero v peer c⟩
  | succ n ih =>
    obtain ⟨bytes, h⟩ := ih
    rw [v.moment_succ]
    exact h.next

end Moments

theorem served_before_read (v : Service) (peer : String) (c : Connection) :
    (∀ n, let m := v.moment peer c n
      m.steps <+: (v.serve peer c).1 ∧
        m.calls.reverse <+: v.dispatch.callsFor (c.stream.take (readSize m.steps)) ∧
        (m.session.phase = .reading → v.Served c m.steps)) ∧
      ∀ before size after, (v.serve peer c).1 = before ++ .read size :: after →
        v.Served c before := by
  constructor
  · intro n
    obtain ⟨bytes, h⟩ := accounts_moment v peer c n
    refine ⟨v.moment_prefix_serve peer c n, ?_, h.served⟩
    rw [h.take_readSize]
    exact h.owes.made_prefix
  · intro before size after hrun
    obtain ⟨n, hsteps, -⟩ := v.exists_moment_serve peer c
    have hread : before ++ [.read size] <+: (v.moment peer c n).steps :=
      ⟨after, by rw [hsteps, hrun, List.append_assoc]; rfl⟩
    obtain ⟨i, rfl, hp⟩ := v.exists_moment_of_read peer c hread
    obtain ⟨bytes, h⟩ := accounts_moment v peer c i
    exact h.served hp

end PromptRelay
