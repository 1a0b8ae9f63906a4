import Mathlib.Logic.Function.Iterate
import PromptRelay.Proofs.Session.Transitions

namespace PromptRelay

namespace Session

theorem callsAfter_append (earlier : List Call) (xs ys : List Step) :
    callsAfter earlier (xs ++ ys) = callsAfter (callsAfter earlier xs) ys := by
  simp [callsAfter]

theorem callsAfter_exchangeOf (earlier : List Call) (steps : List Step) :
    callsAfter earlier (exchangeOf steps) = callsAfter earlier steps := by
  unfold callsAfter exchangeOf
  rw [List.filterMap_filter]
  congr 3
  funext x
  cases x <;> rfl

theorem callsAfter_of_quiet {steps : List Step} (h : exchangeOf steps = []) (earlier : List Call) :
    callsAfter earlier steps = earlier := by
  rw [← callsAfter_exchangeOf, h]
  rfl

theorem step_of_ended {s : Session} {result : Except SessionError Summary}
    (hp : s.phase = .ended result) (v : Service) (earlier : List Call) (c : Connection) :
    s.step v earlier c = ([], c, s) := by
  simp [step, signal, resume, hp]

theorem result?_eq_some_iff {s : Session} {result : Except SessionError Summary} :
    s.result? = some result ↔ s.phase = .ended result := by
  cases hp : s.phase <;> simp [result?, hp]

theorem run_of_ended (v : Service) (earlier : List Call) (c : Connection) {s : Session}
    {result : Except SessionError Summary} (h : s.result? = some result) :
    s.run v earlier c = ([], result) := by
  rw [run]
  split
  · rename_i other hother
    rw [h] at hother
    rw [Option.some.inj hother]
  · rename_i hnone
    rw [h] at hnone
    cases hnone

theorem run_of_running (v : Service) (earlier : List Call) (c : Connection) {s : Session}
    (h : s.result? = none) :
    s.run v earlier c =
      ((s.step v earlier c).1 ++ ((s.step v earlier c).2.2.run v
          (callsAfter earlier (s.step v earlier c).1) (s.step v earlier c).2.1).1,
        ((s.step v earlier c).2.2.run v
          (callsAfter earlier (s.step v earlier c).1) (s.step v earlier c).2.1).2) := by
  rw [run]
  split
  · rename_i result hresult
    rw [h] at hresult
    cases hresult
  · rfl

end Session

structure Moment where
  steps : List Step
  connection : Connection
  session : Session

namespace Moment

def calls (m : Moment) : List Call :=
  Session.callsAfter [] m.steps

def next (v : Service) (m : Moment) : Moment :=
  let (steps, c, s) := m.session.step v m.calls m.connection
  ⟨m.steps ++ steps, c, s⟩

theorem next_of_ended {m : Moment} {result : Except SessionError Summary}
    (h : m.session.phase = .ended result) (v : Service) : m.next v = m := by
  simp [next, Session.step_of_ended h]

theorem calls_append (m : Moment) (steps : List Step) (left : Connection) (s : Session) :
    (⟨m.steps ++ steps, left, s⟩ : Moment).calls = Session.callsAfter m.calls steps :=
  Session.callsAfter_append [] m.steps steps

theorem next_calls (v : Service) (m : Moment) :
    (m.next v).calls = Session.callsAfter m.calls (m.session.step v m.calls m.connection).1 :=
  m.calls_append _ _ _

theorem exists_transition (v : Service) (m : Moment) :
    ∃ steps left s, Session.Transition v m.calls m.connection m.session steps left s ∧
      m.next v = ⟨m.steps ++ steps, left, s⟩ :=
  ⟨_, _, _, Session.step_transition v m.calls m.connection m.session, rfl⟩

theorem exists_iterate_next (v : Service) (earlier : List Call) (c : Connection) (s : Session) :
    ∀ m : Moment, m.calls = earlier → m.connection = c → m.session = s →
      ∃ n, ((next v)^[n] m).steps = m.steps ++ (s.run v earlier c).1 ∧
        ((next v)^[n] m).session.phase = .ended (s.run v earlier c).2 := by
  induction earlier, c, s using Session.run.induct v with
  | case1 earlier c s result hresult =>
    rintro m - - rfl
    refine ⟨0, ?_⟩
    rw [Session.run_of_ended v _ c hresult]
    exact ⟨(List.append_nil _).symm, Session.result?_eq_some_iff.mp hresult⟩
  | case2 earlier c s hresult _ _ _ _ ih =>
    rintro m rfl rfl rfl
    obtain ⟨n, hsteps, hphase⟩ := ih (m.next v) (next_calls v m) rfl rfl
    refine ⟨n + 1, ?_⟩
    rw [Session.run_of_running v m.calls m.connection hresult, Function.iterate_succ_apply]
    refine ⟨?_, hphase⟩
    rw [hsteps]
    exact List.append_assoc _ _ _

end Moment

namespace Service

def moment (v : Service) (peer : String) (c : Connection) (n : ℕ) : Moment :=
  (Moment.next v)^[n] ⟨[], c, ⟨peer, {}, {}, {}, .opening⟩⟩

variable (v : Service) (peer : String) (c : Connection)

theorem moment_succ (n : ℕ) : v.moment peer c (n + 1) = (v.moment peer c n).next v :=
  Function.iterate_succ_apply' _ _ _

theorem moment_ended_add {n : ℕ} {result : Except SessionError Summary}
    (h : (v.moment peer c n).session.phase = .ended result) (k : ℕ) :
    v.moment peer c (n + k) = v.moment peer c n := by
  induction k with
  | zero => rfl
  | succ k ih => rw [← Nat.add_assoc, moment_succ, ih, Moment.next_of_ended h]

theorem moment_prefix_add (n k : ℕ) :
    (v.moment peer c n).steps <+: (v.moment peer c (n + k)).steps := by
  induction k with
  | zero => exact List.prefix_refl _
  | succ k ih =>
    rw [← Nat.add_assoc, moment_succ]
    exact ih.trans (List.prefix_append _ _)

theorem exists_moment_of_read {before : List Step} {size n : ℕ}
    (h : before ++ [.read size] <+: (v.moment peer c n).steps) :
    ∃ i, (v.moment peer c i).steps = before ∧ (v.moment peer c i).session.phase = .reading := by
  induction n with
  | zero => simp [moment] at h
  | succ n ih =>
    obtain ⟨steps, left, s, htransition, hnext⟩ := (v.moment peer c n).exists_transition v
    rw [moment_succ, hnext] at h
    by_cases hlt : before.length < (v.moment peer c n).steps.length
    · apply ih
      apply List.prefix_of_prefix_length_le h (List.prefix_append _ _)
      rw [List.length_append]
      exact hlt
    · obtain ⟨pre, rfl⟩ := List.prefix_of_prefix_length_le (List.prefix_append _ _)
        ((List.prefix_append before _).trans h) (Nat.le_of_not_lt hlt)
      rw [List.append_assoc, List.prefix_append_right_inj] at h
      obtain ⟨after, hafter⟩ := h
      rw [List.append_assoc, List.singleton_append] at hafter
      obtain ⟨hpre, hphase⟩ := htransition.read_first hafter.symm
      exact ⟨n, by rw [hpre, List.append_nil], hphase⟩

theorem exists_moment_serve : ∃ n, (v.moment peer c n).steps = (v.serve peer c).1 ∧
    (v.moment peer c n).session.phase = .ended (v.serve peer c).2 :=
  Moment.exists_iterate_next v [] c _ ⟨[], c, ⟨peer, {}, {}, {}, .opening⟩⟩ rfl rfl rfl

theorem serve_of_ended {v : Service} {peer : String} {c : Connection} {n : ℕ}
    {result : Except SessionError Summary}
    (h : (v.moment peer c n).session.phase = .ended result) :
    v.serve peer c = ((v.moment peer c n).steps, result) := by
  obtain ⟨last, hsteps, hended⟩ := v.exists_moment_serve peer c
  have hsame : v.moment peer c n = v.moment peer c last := by
    rw [← v.moment_ended_add peer c h last, ← v.moment_ended_add peer c hended n, Nat.add_comm]
  rw [hsame] at h ⊢
  rw [hended] at h
  rw [hsteps]
  exact Prod.ext rfl (Phase.ended.inj h)

theorem moment_prefix_serve (n : ℕ) : (v.moment peer c n).steps <+: (v.serve peer c).1 := by
  obtain ⟨last, hsteps, hended⟩ := v.exists_moment_serve peer c
  rw [← hsteps, ← v.moment_ended_add peer c hended n, Nat.add_comm]
  exact v.moment_prefix_add peer c n last

end Service

end PromptRelay
