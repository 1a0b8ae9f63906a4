import Mathlib.Data.List.Induction
import Mathlib.Tactic.SplitIfs
import PromptRelay.Listener.Concurrent

namespace PromptRelay.Concurrent

inductive Moves (v : Service) (s : Concurrent) : Occurrence → Concurrent → Prop
  | accepted {peer : String} {c : Connection} (hphase : s.phase = .accepting) :
      Moves v s (.accepted peer c) { s with tasks := s.tasks ++ [{ client := .arrive peer c }] }
  | notAccepted {cause : String} (hphase : s.phase = .accepting) :
      Moves v s (.notAccepted cause) { s with phase := .pausing }
  | pauseEnded (hphase : s.phase = .pausing) : Moves v s .pauseEnded { s with phase := .accepting }
  | proceeded {i : ℕ} {t : Task} (htask : s.tasks[i]? = some t) (hserving : t.phase = .serving) :
      Moves v s (.proceeded i)
        { s with
          tasks := s.tasks.set i (.follow (t.client.proceed v s.calls).1)
          calls := (t.client.proceed v s.calls).2 }
  | sent {i : ℕ} {t : Task} {e : SessionError} (htask : s.tasks[i]? = some t)
      (hsending : t.phase = .sending e) (hslot : s.slot = none) :
      Moves v s (.sent i)
        { s with tasks := s.tasks.set i { t with phase := .over }, slot := some e }
  | joined {i : ℕ} {t : Task} (hphase : s.phase = .accepting) (htask : s.tasks[i]? = some t)
      (hover : t.phase = .over) :
      Moves v s (.joined i) { s with tasks := s.tasks.set i { t with phase := .joined } }
  | received {e : SessionError} (hphase : s.phase = .accepting) (hslot : s.slot = some e) :
      Moves v s .received ({ s with slot := none }.stop (.error (.fatal e)))
  | asked : Moves v s .asked { s with isAsked := true }
  | heeded (hphase : s.phase = .accepting) (hasked : s.isAsked = true) :
      Moves v s .heeded (s.stop (.ok ()))

variable {v : Service} {s s' : Concurrent} {o : Occurrence}

theorem moves_of_taskStep {i : ℕ} {t : Task} (htask : s.tasks[i]? = some t)
    (ho : o = .proceeded i ∨ o = .sent i) (h : s.taskStep v i t o = some s') : Moves v s o s' := by
  rcases ho with rfl | rfl
  · unfold taskStep at h
    split_ifs at h with hserving
    obtain rfl := Option.some.inj h
    exact .proceeded htask hserving
  · cases hphase : t.phase with
    | sending e =>
      cases hslot : s.slot with
      | none =>
        simp only [taskStep, hphase, hslot, Option.some.injEq] at h
        subst h
        exact .sent htask hphase hslot
      | some other => simp [taskStep, hphase, hslot] at h
    | _ => simp [taskStep, hphase] at h

theorem moves_of_ownStep (h : s.ownStep o = some s') : Moves v s o s' := by
  unfold ownStep at h
  split at h
  next hphase =>
    obtain rfl := Option.some.inj h
    exact .accepted hphase
  next hphase =>
    obtain rfl := Option.some.inj h
    exact .notAccepted hphase
  next hphase =>
    obtain rfl := Option.some.inj h
    exact .pauseEnded hphase
  next hphase =>
    obtain ⟨e, hslot, rfl⟩ := Option.map_eq_some_iff.mp h
    exact .received hphase hslot
  next i hphase =>
    split at h
    next t htask =>
      split_ifs at h with hover
      obtain rfl := Option.some.inj h
      exact .joined hphase htask hover
    next => cases h
  next hphase =>
    split_ifs at h with hasked
    obtain rfl := Option.some.inj h
    exact .heeded hphase hasked
  next =>
    obtain rfl := Option.some.inj h
    exact .asked
  next => cases h

theorem moves_of_step (h : s.step v o = some s') : Moves v s o s' := by
  cases htask : o.task? with
  | none =>
    simp only [step, htask] at h
    exact moves_of_ownStep h
  | some i =>
    simp only [step, htask] at h
    obtain ⟨t, ht, h⟩ := Option.bind_eq_some_iff.mp h
    refine moves_of_taskStep ht ?_ h
    cases o <;> simp_all [Occurrence.task?]

theorem step_of_moves (h : Moves v s o s') : s.step v o = some s' := by
  cases h with
  | accepted hphase => simp [step, Occurrence.task?, ownStep, hphase]
  | notAccepted hphase => simp [step, Occurrence.task?, ownStep, hphase]
  | pauseEnded hphase => simp [step, Occurrence.task?, ownStep, hphase]
  | proceeded htask hserving => simp [step, Occurrence.task?, htask, taskStep, hserving]
  | sent htask hsending hslot => simp [step, Occurrence.task?, htask, taskStep, hsending, hslot]
  | joined hphase htask hover => simp [step, Occurrence.task?, ownStep, hphase, htask, hover]
  | received hphase hslot => simp [step, Occurrence.task?, ownStep, hphase, hslot]
  | asked => simp [step, Occurrence.task?, ownStep]
  | heeded hphase hasked => simp [step, Occurrence.task?, ownStep, hphase, hasked]

theorem run_append (v : Service) (s : Concurrent) (before after : List Occurrence) :
    s.run v (before ++ after) = (s.run v before).bind fun s => s.run v after :=
  List.foldlM_append

theorem run_induction {motive : List Occurrence → Concurrent → Prop} (start : motive [] s)
    (next : ∀ before t o t', motive before t → Moves v t o t' → motive (before ++ [o]) t')
    {occurrences : List Occurrence} (h : s.run v occurrences = some s') :
    motive occurrences s' := by
  induction occurrences using List.reverseRecOn generalizing s' with
  | nil =>
    obtain rfl := Option.some.inj h
    exact start
  | append_singleton before o ih =>
    rw [run_append] at h
    obtain ⟨t, hbefore, hlast⟩ := Option.bind_eq_some_iff.mp h
    have hstep : t.step v o = some s' := by simpa [run] using hlast
    exact next before t o s' (ih hbefore) (moves_of_step hstep)

end PromptRelay.Concurrent
