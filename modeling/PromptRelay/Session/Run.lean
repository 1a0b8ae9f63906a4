import PromptRelay.Connection
import PromptRelay.Session

namespace PromptRelay

structure Answer where
  delay : Nat := 0
  outcome : Outcome

structure Backend where
  kind : BackendKind
  description : String
  /-- What comes of a call, given the calls before it, the latest first. -/
  answer : List Call → Call → Answer

structure Service where
  backend : Backend
  dispatch : Dispatch

def Service.ask (v : Service) (earlier : List Call) (c : Call) : Outcome × Nat :=
  let answer := v.backend.answer earlier c
  (v.dispatch.await answer.delay answer.outcome,
   match v.dispatch.timeout with
   | some limit => min limit answer.delay
   | none => answer.delay)

namespace Session

def signal (v : Service) (earlier : List Call) (c : Connection) (s : Session) :
    Signal × Connection :=
  match s.phase with
  | .opening => (.opened, c)
  | .reading =>
    let (result, c) := c.read v.dispatch.readBufferSize
    (match result with
      | .ok bytes => .received bytes
      | .error cause => .broken cause, c)
  | .calling r _ =>
    let (outcome, elapsed) := v.ask earlier (v.dispatch.call r)
    (.answered outcome elapsed, c)
  | .writing _ left _ =>
    let (result, c) := c.write left
    (match result with
      | .ok n => .taken n
      | .error cause => .broken cause, c)
  | .flushing _ _ =>
    let (result, c) := c.flush
    (match result with
      | .ok () => .flushed
      | .error cause => .broken cause, c)
  | .ended _ => (.flushed, c)

def step (v : Service) (earlier : List Call) (c : Connection) (s : Session) :
    List Step × Connection × Session :=
  let (signal, c) := s.signal v earlier c
  let (steps, s) := s.resume v.dispatch v.backend.kind signal
  (steps, c, s)

def result? (s : Session) : Option (Except SessionError Summary) :=
  match s.phase with
  | .ended result => some result
  | _ => none

def callsAfter (earlier : List Call) (steps : List Step) : List Call :=
  (steps.filterMap fun
    | .call c => some c
    | _ => none).reverse ++ earlier

end Session

/-- What is ahead of a session: what is yet to arrive, the requests taken up, what is left to do for
the first of them. It gets less with every step. -/
def Phase.rank (ahead : Nat) : Phase → Nat × Nat × Nat × Nat
  | .opening => (ahead + 2, 0, 0, 0)
  | .reading => (ahead + 1, 0, 0, 0)
  | .calling _ rest => (ahead + 1, rest.length + 1, 2, 0)
  | .writing _ left rest => (ahead + 1, rest.length + 1, 1, left.length)
  | .flushing _ rest => (ahead + 1, rest.length + 1, 0, 0)
  | .ended _ => (0, 0, 0, 0)

abbrev Phase.Before (a b : Nat × Nat × Nat × Nat) : Prop :=
  Prod.Lex Nat.lt (Prod.Lex Nat.lt (Prod.Lex Nat.lt Nat.lt)) a b

namespace Session

open Phase (Before)

theorem handle_rank (s : Session) (frames : List Frame) (ahead n a b : Nat)
    (h : frames.length < n) :
    Before ((s.handle frames).2.phase.rank ahead) (ahead + 1, n, a, b) := by
  induction frames generalizing s with
  | nil => exact Prod.Lex.right _ (Prod.Lex.left _ _ h)
  | cons f rest ih =>
    cases f with
    | discarded => exact ih _ (Nat.lt_of_succ_lt h)
    | request r => exact Prod.Lex.right _ (Prod.Lex.left _ _ h)

theorem handle_rank_of_lt (s : Session) (frames : List Frame) {ahead n : Nat} (h : ahead < n) :
    Before ((s.handle frames).2.phase.rank ahead) (n + 1, 0, 0, 0) := by
  induction frames generalizing s with
  | nil => exact Prod.Lex.left _ _ (Nat.succ_lt_succ h)
  | cons f rest ih =>
    cases f with
    | discarded => exact ih _
    | request r => exact Prod.Lex.left _ _ (Nat.succ_lt_succ h)

theorem rank_step (v : Service) (earlier : List Call) (c : Connection) (s : Session)
    (h : s.result? = none) :
    Before ((s.step v earlier c).2.2.phase.rank (s.step v earlier c).2.1.ahead)
      (s.phase.rank c.ahead) := by
  cases hp : s.phase with
  | opening => exact Prod.Lex.left _ _ (by simp [step, signal, resume, hp])
  | reading =>
    cases hr : (c.read v.dispatch.readBufferSize).1 with
    | error cause =>
      simp only [step, signal, resume, hp, hr]
      exact Prod.Lex.left _ _ (Nat.succ_pos _)
    | ok bytes =>
      cases bytes with
      | nil =>
        simp only [step, signal, resume, hp, hr]
        exact Prod.Lex.left _ _ (Nat.succ_pos _)
      | cons b bs =>
        simp only [step, signal, resume, hp, hr]
        exact handle_rank_of_lt _ _ (c.ahead_read _ hr)
  | calling r rest =>
    simp only [step, signal, resume, hp, answer]
    split
    · exact Prod.Lex.left _ _ (Nat.succ_pos _)
    · exact Prod.Lex.right _ (Prod.Lex.right _ (Prod.Lex.left _ _ Nat.one_lt_two))
  | writing line left rest =>
    have hc : (c.write left).2.ahead = c.ahead := rfl
    cases hw : (c.write left).1 with
    | error cause =>
      simp only [step, signal, resume, hp, hw]
      exact Prod.Lex.left _ _ (Nat.succ_pos _)
    | ok n =>
      simp only [step, signal, resume, hp, hw, hc]
      by_cases h0 : n = 0
      · simp only [h0, if_true]
        exact Prod.Lex.left _ _ (Nat.succ_pos _)
      · by_cases hl : left.length ≤ n
        · simp only [h0, hl, if_true, if_false]
          exact Prod.Lex.right _ (Prod.Lex.right _ (Prod.Lex.left _ _ Nat.one_pos))
        · simp only [h0, hl, if_false]
          refine Prod.Lex.right _ (Prod.Lex.right _ (Prod.Lex.right _ ?_))
          show (left.drop n).length < left.length
          rw [List.length_drop]
          omega
  | flushing line rest =>
    have hc : c.flush.2.ahead = c.ahead := rfl
    cases hf : c.flush.1 with
    | error cause =>
      simp only [step, signal, resume, hp, hf]
      exact Prod.Lex.left _ _ (Nat.succ_pos _)
    | ok u =>
      simp only [step, signal, resume, hp, hf, hc]
      exact handle_rank _ _ _ _ _ _ (Nat.lt_succ_self _)
  | ended result => simp [result?, hp] at h

def run (v : Service) (earlier : List Call) (c : Connection) (s : Session) :
    List Step × Except SessionError Summary :=
  match _h : s.result? with
  | some result => ([], result)
  | none =>
    let next := s.step v earlier c
    let (steps, result) := run v (callsAfter earlier next.1) next.2.1 next.2.2
    (next.1 ++ steps, result)
termination_by s.phase.rank c.ahead
decreasing_by exact rank_step v earlier c s _h

end Session

def Service.serve (v : Service) (peer : String) (c : Connection) :
    List Step × Except SessionError Summary :=
  Session.run v [] c ⟨peer, {}, {}, {}, .opening⟩

end PromptRelay
