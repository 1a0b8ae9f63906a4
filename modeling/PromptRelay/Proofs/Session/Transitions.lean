import Mathlib.Data.Nat.Notation
import Mathlib.Tactic.SplitIfs
import PromptRelay.Session.Run

namespace PromptRelay

def Service.reply (v : Service) (earlier : List Call) (call : Call) : Except Fault Reply :=
  Session.replyOf v.backend.kind (v.ask earlier call).1

def Step.isExchange : Step → Bool
  | .call _ => true
  | .write _ => true
  | .flush => true
  | _ => false

def exchangeOf (steps : List Step) : List Step :=
  steps.filter Step.isExchange

def readSize : List Step → ℕ
  | [] => 0
  | .read n :: steps => n + readSize steps
  | _ :: steps => readSize steps

theorem exchangeOf_append (xs ys : List Step) :
    exchangeOf (xs ++ ys) = exchangeOf xs ++ exchangeOf ys :=
  List.filter_append xs ys

theorem readSize_append (xs ys : List Step) : readSize (xs ++ ys) = readSize xs + readSize ys := by
  induction xs with
  | nil => exact (Nat.zero_add _).symm
  | cons x xs ih =>
    cases x with
    | read n =>
      rw [List.cons_append, readSize, readSize, ih]
      omega
    | _ => exact ih

def Phase.taking : List Frame → Phase
  | [] => .reading
  | .discarded :: rest => taking rest
  | .request r :: rest => .calling r rest

def discardedFirst : List Frame → ℕ
  | .discarded :: rest => discardedFirst rest + 1
  | _ => 0

namespace Session

theorem handle_session (s : Session) (frames : List Frame) :
    (s.handle frames).2 =
      { s with
        summary.discarded := s.summary.discarded + discardedFirst frames
        phase := .taking frames } := by
  induction frames generalizing s with
  | nil => rfl
  | cons frame rest ih =>
    cases frame with
    | request r => rfl
    | discarded =>
      simp only [handle, ih, discardedFirst, Phase.taking]
      congr 2
      omega

theorem handle_exchangeOf (s : Session) (frames : List Frame) :
    exchangeOf (s.handle frames).1 = [] := by
  induction frames generalizing s with
  | nil => rfl
  | cons frame rest ih =>
    cases frame with
    | request r => rfl
    | discarded => exact ih _

theorem handle_readSize (s : Session) (frames : List Frame) : readSize (s.handle frames).1 = 0 := by
  induction frames generalizing s with
  | nil => rfl
  | cons frame rest ih =>
    cases frame with
    | request r => rfl
    | discarded => exact ih _

theorem close_exchangeOf (s : Session) : exchangeOf s.close.1 = [] := by
  unfold close
  split_ifs <;> rfl

theorem close_readSize (s : Session) : readSize s.close.1 = 0 := by
  unfold close
  split_ifs <;> rfl

section Receive

variable (s : Session) (bytes : List UInt8)

theorem receive_exchangeOf : exchangeOf (s.receive bytes).1 = [] := by
  simp only [receive]
  split_ifs <;> exact handle_exchangeOf _ _

theorem receive_readSize : readSize (s.receive bytes).1 = bytes.length := by
  simp only [receive]
  split_ifs <;> exact congrArg _ (handle_readSize _ _)

theorem receive_decoder : (s.receive bytes).2.decoder = (s.decoder.feed bytes).2 := by
  simp only [receive, handle_session]

theorem receive_framer :
    (s.receive bytes).2.framer = (s.framer.push (s.decoder.feed bytes).1).2 := by
  simp only [receive, handle_session]

theorem receive_phase :
    (s.receive bytes).2.phase = .taking (s.framer.push (s.decoder.feed bytes).1).1 := by
  simp only [receive, handle_session]

end Receive

section Sent

variable (s : Session) (line : Line) (rest : List Frame)

theorem sent_exchangeOf : exchangeOf (s.sent line rest).1 = [.flush] :=
  congrArg (List.cons Step.flush) (handle_exchangeOf _ rest)

theorem sent_readSize : readSize (s.sent line rest).1 = 0 :=
  handle_readSize _ rest

theorem sent_decoder : (s.sent line rest).2.decoder = s.decoder := by
  simp only [sent, handle_session]

theorem sent_framer : (s.sent line rest).2.framer = s.framer := by
  simp only [sent, handle_session]

theorem sent_phase : (s.sent line rest).2.phase = .taking rest := by
  simp only [sent, handle_session]

end Sent

inductive Transition (v : Service) (earlier : List Call) (c : Connection) (s : Session) :
    List Step → Connection → Session → Prop
  | opened (hp : s.phase = .opening) :
      Transition v earlier c s [.event (.sessionOpened s.peer)] c { s with phase := .reading }
  | closed (hp : s.phase = .reading)
      (hread : (c.read v.dispatch.readBufferSize).1 = .ok []) :
      Transition v earlier c s s.close.1 (c.read v.dispatch.readBufferSize).2 s.close.2
  | received {bytes : List UInt8} (hp : s.phase = .reading) (hne : bytes ≠ [])
      (hread : (c.read v.dispatch.readBufferSize).1 = .ok bytes) :
      Transition v earlier c s (s.receive bytes).1 (c.read v.dispatch.readBufferSize).2
        (s.receive bytes).2
  | unread {cause : String} (hp : s.phase = .reading)
      (hread : (c.read v.dispatch.readBufferSize).1 = .error cause) :
      Transition v earlier c s [] (c.read v.dispatch.readBufferSize).2 (s.fail cause)
  | answered {r : Request} {rest : List Frame} {reply : Reply} (hp : s.phase = .calling r rest)
      (hreply : v.reply earlier (v.dispatch.call r) = .ok reply) :
      Transition v earlier c s
        [.call (v.dispatch.call r),
          .event (replyEvent s.peer reply.line (v.ask earlier (v.dispatch.call r)).2 reply)]
        c { s with phase := .writing reply.line reply.line.bytes rest }
  | refused {r : Request} {rest : List Frame} {fault : Fault} (hp : s.phase = .calling r rest)
      (hreply : v.reply earlier (v.dispatch.call r) = .error fault) :
      Transition v earlier c s [.call (v.dispatch.call r), .event (.fault s.peer fault.message)] c
        { s with phase := .ended (.error (.backend fault)) }
  | wrote {line : Line} {left : List UInt8} {rest : List Frame} {n : ℕ}
      (hp : s.phase = .writing line left rest) (hwrite : (c.write left).1 = .ok n) (hpos : 0 < n)
      (hlt : n < left.length) :
      Transition v earlier c s [.write (left.take n)] (c.write left).2
        { s with phase := .writing line (left.drop n) rest }
  | wroteAll {line : Line} {left : List UInt8} {rest : List Frame} {n : ℕ}
      (hp : s.phase = .writing line left rest) (hwrite : (c.write left).1 = .ok n) (hpos : 0 < n)
      (hle : left.length ≤ n) :
      Transition v earlier c s [.write left] (c.write left).2 { s with phase := .flushing line rest }
  | wroteNothing {line : Line} {left : List UInt8} {rest : List Frame}
      (hp : s.phase = .writing line left rest) (hwrite : (c.write left).1 = .ok 0) :
      Transition v earlier c s [.write []] (c.write left).2 (s.fail "write zero")
  | unwritten {line : Line} {left : List UInt8} {rest : List Frame} {cause : String}
      (hp : s.phase = .writing line left rest) (hwrite : (c.write left).1 = .error cause) :
      Transition v earlier c s [] (c.write left).2 (s.fail cause)
  | flushed {line : Line} {rest : List Frame} (hp : s.phase = .flushing line rest)
      (hflush : c.flush.1 = .ok ()) :
      Transition v earlier c s (s.sent line rest).1 c.flush.2 (s.sent line rest).2
  | unflushed {line : Line} {rest : List Frame} {cause : String}
      (hp : s.phase = .flushing line rest) (hflush : c.flush.1 = .error cause) :
      Transition v earlier c s [] c.flush.2 (s.fail cause)
  | ended {result : Except SessionError Summary} (hp : s.phase = .ended result) :
      Transition v earlier c s [] c s

section Cases

variable (v : Service) (earlier : List Call) (c : Connection) {s : Session}

theorem transition_reading (hp : s.phase = .reading) :
    Transition v earlier c s (s.step v earlier c).1 (s.step v earlier c).2.1
      (s.step v earlier c).2.2 := by
  cases hread : (c.read v.dispatch.readBufferSize).1 with
  | error cause =>
    simp only [step, signal, resume, hp, hread]
    exact .unread hp hread
  | ok bytes =>
    cases bytes with
    | nil =>
      simp only [step, signal, resume, hp, hread]
      exact .closed hp hread
    | cons b bs =>
      simp only [step, signal, resume, hp, hread]
      exact .received hp (List.cons_ne_nil b bs) hread

theorem transition_calling {r : Request} {rest : List Frame} (hp : s.phase = .calling r rest) :
    Transition v earlier c s (s.step v earlier c).1 (s.step v earlier c).2.1
      (s.step v earlier c).2.2 := by
  have hreply : v.reply earlier (v.dispatch.call r) =
      replyOf v.backend.kind (v.ask earlier (v.dispatch.call r)).1 := rfl
  simp only [step, signal, resume, hp, answer]
  cases h : replyOf v.backend.kind (v.ask earlier (v.dispatch.call r)).1 with
  | ok reply => exact .answered hp (hreply.trans h)
  | error fault => exact .refused hp (hreply.trans h)

theorem transition_writing {line : Line} {left : List UInt8} {rest : List Frame}
    (hp : s.phase = .writing line left rest) :
    Transition v earlier c s (s.step v earlier c).1 (s.step v earlier c).2.1
      (s.step v earlier c).2.2 := by
  cases hwrite : (c.write left).1 with
  | error cause =>
    simp only [step, signal, resume, hp, hwrite]
    exact .unwritten hp hwrite
  | ok n =>
    simp only [step, signal, resume, hp, hwrite]
    by_cases hzero : n = 0
    · subst hzero
      exact .wroteNothing hp hwrite
    · by_cases hle : left.length ≤ n
      · rw [if_neg hzero, if_pos hle, List.take_of_length_le hle]
        exact .wroteAll hp hwrite (Nat.pos_of_ne_zero hzero) hle
      · rw [if_neg hzero, if_neg hle]
        exact .wrote hp hwrite (Nat.pos_of_ne_zero hzero) (Nat.lt_of_not_le hle)

theorem transition_flushing {line : Line} {rest : List Frame}
    (hp : s.phase = .flushing line rest) :
    Transition v earlier c s (s.step v earlier c).1 (s.step v earlier c).2.1
      (s.step v earlier c).2.2 := by
  cases hflush : c.flush.1 with
  | error cause =>
    simp only [step, signal, resume, hp, hflush]
    exact .unflushed hp hflush
  | ok u =>
    simp only [step, signal, resume, hp, hflush]
    exact .flushed hp hflush

end Cases

theorem step_transition (v : Service) (earlier : List Call) (c : Connection) (s : Session) :
    Transition v earlier c s (s.step v earlier c).1 (s.step v earlier c).2.1
      (s.step v earlier c).2.2 := by
  cases hp : s.phase with
  | opening =>
    simp only [step, signal, resume, hp]
    exact .opened hp
  | reading => exact transition_reading v earlier c hp
  | calling r rest => exact transition_calling v earlier c hp
  | writing line left rest => exact transition_writing v earlier c hp
  | flushing line rest => exact transition_flushing v earlier c hp
  | ended result =>
    simp only [step, signal, resume, hp]
    exact .ended hp

theorem handle_read_not_mem (s : Session) (frames : List Frame) (size : ℕ) :
    .read size ∉ (s.handle frames).1 := by
  induction frames generalizing s with
  | nil => exact List.not_mem_nil
  | cons frame rest ih =>
    cases frame with
    | request r => simp [handle]
    | discarded => simpa [handle] using ih _

theorem eq_nil_of_read_not_mem {before after rest : List Step} {x : Step} {size : ℕ}
    (h : x :: rest = before ++ .read size :: after) (hrest : .read size ∉ rest) : before = [] := by
  cases before with
  | nil => rfl
  | cons b before =>
    obtain ⟨-, hrest'⟩ := List.cons.inj h
    rw [hrest'] at hrest
    simp at hrest

theorem Transition.read_first {v : Service} {earlier : List Call} {c c' : Connection}
    {s s' : Session} {steps before after : List Step} {size : ℕ}
    (h : Transition v earlier c s steps c' s') (hsteps : steps = before ++ .read size :: after) :
    before = [] ∧ s.phase = .reading := by
  have hmem : .read size ∈ steps := by simp [hsteps]
  cases h with
  | closed hp hread =>
    refine ⟨?_, hp⟩
    apply eq_nil_of_read_not_mem hsteps
    split_ifs <;> simp
  | received hp hne hread =>
    refine ⟨?_, hp⟩
    apply eq_nil_of_read_not_mem hsteps
    simp only [List.mem_append, not_or]
    refine ⟨?_, handle_read_not_mem _ _ _⟩
    split_ifs <;> simp
  | flushed hp hflush =>
    simp only [sent, List.mem_cons, reduceCtorEq, false_or] at hmem
    exact absurd hmem (handle_read_not_mem _ _ _)
  | _ => simp at hmem

end Session

end PromptRelay
