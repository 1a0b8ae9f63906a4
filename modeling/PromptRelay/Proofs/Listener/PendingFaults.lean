import PromptRelay.Proofs.Listener.Moves

/-!
Faults on their way to a listener that serves clients side by side: while it runs, those that
sessions have ended with are held by their tasks or in the slot, and each is in one place.
-/

namespace PromptRelay

theorem Client.fatalError?_eq_some_iff {k : Client} {e : SessionError} : k.fatalError? = some e ↔
    ∃ fault, e = .backend fault ∧ k.result? = some (.error (.backend fault)) := by
  unfold Client.fatalError?
  cases hresult : k.result? with
  | none => simp
  | some result =>
    match result with
    | .ok summary => simp
    | .error (.io cause) => simp [SessionError.isFatal]
    | .error (.backend fault) => simp [SessionError.isFatal, eq_comm]

namespace Concurrent

def Task.held? (t : Task) : Option SessionError :=
  match t.phase with
  | .sending e => some e
  | _ => none

def Task.sent? (t : Task) : Option SessionError :=
  match t.phase with
  | .over => t.client.fatalError?
  | .joined => t.client.fatalError?
  | _ => none

def Task.Fits (t : Task) : Prop :=
  match t.phase with
  | .serving => t.client.result? = none
  | .sending e => t.client.fatalError? = some e
  | .over => True
  | .joined => True
  | .aborted => False

theorem Task.follow_fits (k : Client) : (Task.follow k).Fits ∧ (Task.follow k).sent? = none := by
  cases hresult : k.result? with
  | none => simp [Task.follow, Task.Fits, Task.sent?, hresult]
  | some result =>
    cases hfatal : k.fatalError? <;> simp [Task.follow, Task.Fits, Task.sent?, hresult, hfatal]

theorem Task.abort_still (t : Task) : t.abort.phase ≠ .serving ∧ t.abort.held? = none := by
  cases hphase : t.phase <;> simp [Task.abort, Task.held?, hphase]

theorem Task.abort_client (t : Task) : t.abort.client = t.client := by
  cases hphase : t.phase <;> simp [Task.abort, hphase]

theorem Task.held?_eq_some_iff {t : Task} {e : SessionError} :
    t.held? = some e ↔ t.phase = .sending e := by
  cases hphase : t.phase <;> simp [Task.held?, hphase]

theorem Task.sent?_eq_some_iff {t : Task} {e : SessionError} : t.sent? = some e ↔
    (t.phase = .over ∨ t.phase = .joined) ∧ t.client.fatalError? = some e := by
  cases hphase : t.phase <;> simp [Task.sent?, hphase]

theorem Task.Fits.fault_cases {t : Task} (h : t.Fits) :
    (t.held? = t.client.fatalError? ∧ t.sent? = none) ∨
      (t.held? = none ∧ t.sent? = t.client.fatalError?) := by
  unfold Task.Fits at h
  cases hphase : t.phase with
  | serving =>
    rw [hphase] at h
    simp [Task.held?, Task.sent?, Client.fatalError?, hphase, h]
  | sending e =>
    rw [hphase] at h
    simp [Task.held?, Task.sent?, hphase, h]
  | aborted => rw [hphase] at h; cases h
  | _ => simp [Task.held?, Task.sent?, hphase]

theorem exists_set {tasks : List Task} {i : ℕ} {t : Task} (h : tasks[i]? = some t) (t' : Task) :
    ∃ before after, tasks = before ++ t :: after ∧ tasks.set i t' = before ++ t' :: after := by
  obtain ⟨hlt, rfl⟩ := List.getElem?_eq_some_iff.mp h
  obtain ⟨before, after, htasks, -, hset⟩ := @List.exists_of_set _ i t' tasks hlt
  exact ⟨before, after, htasks, hset⟩

theorem filterMap_sent?_set {tasks : List Task} {i : ℕ} {t t' : Task} (h : tasks[i]? = some t)
    (hsame : t'.sent? = t.sent?) :
    (tasks.set i t').filterMap Task.sent? = tasks.filterMap Task.sent? := by
  obtain ⟨before, after, htasks, hset⟩ := exists_set h t'
  rw [hset, htasks, List.filterMap_append, List.filterMap_append, List.filterMap_cons,
    List.filterMap_cons, hsame]

theorem forall_mem_set {P : Task → Prop} {tasks : List Task} (h : ∀ t ∈ tasks, P t) {t' : Task}
    (ht' : P t') (i : ℕ) : ∀ t ∈ tasks.set i t', P t := by
  intro t ht
  rcases List.mem_or_eq_of_mem_set ht with hmem | rfl
  · exact h t hmem
  · exact ht'

structure Sound (s : Concurrent) : Prop where
  fits : ∀ t ∈ s.tasks, t.Fits
  slot : s.tasks.filterMap Task.sent? = s.slot.toList

variable {v : Service} {s s' : Concurrent} {o : Occurrence}

theorem Sound.next (h : s.Sound) (hmoves : Moves v s o s') (hrunning : s'.result? = none) :
    s'.Sound := by
  obtain ⟨hfits, hslot⟩ := h
  cases hmoves with
  | accepted hphase =>
    constructor
    · rw [List.forall_mem_append]
      exact ⟨hfits, List.forall_mem_singleton.mpr rfl⟩
    · rw [List.filterMap_append, hslot]
      exact List.append_nil _
  | notAccepted hphase => exact ⟨hfits, hslot⟩
  | pauseEnded hphase => exact ⟨hfits, hslot⟩
  | @proceeded i t htask hserving =>
    obtain ⟨hfollow, hunsent⟩ := Task.follow_fits (t.client.proceed v s.calls).1
    have hbefore : t.sent? = none := by rw [Task.sent?, hserving]
    constructor
    · exact forall_mem_set hfits hfollow i
    · rw [filterMap_sent?_set htask (hunsent.trans hbefore.symm), hslot]
  | @sent i t e htask hsending hempty =>
    have hfatal : t.client.fatalError? = some e := by
      have hfit := hfits t (List.mem_of_getElem? htask)
      rwa [Task.Fits, hsending] at hfit
    have hover : ({ t with phase := .over } : Task).sent? = some e := hfatal
    have hfit : ({ t with phase := .over } : Task).Fits := trivial
    have hunsent : t.sent? = none := by rw [Task.sent?, hsending]
    constructor
    · exact forall_mem_set hfits hfit i
    · -- Nothing had been sent before, so what is sent now is all that has been sent.
      obtain ⟨before, after, htasks, hset⟩ := exists_set htask { t with phase := .over }
      rw [htasks, hempty, List.filterMap_append, List.filterMap_cons_none hunsent] at hslot
      obtain ⟨hbefore, hafter⟩ := List.append_eq_nil_iff.mp hslot
      rw [hset, List.filterMap_append, List.filterMap_cons_some hover, hbefore, hafter]
      rfl
  | @joined i t hphase htask hover =>
    have hsame : ({ t with phase := .joined } : Task).sent? = t.sent? := by
      rw [Task.sent?, Task.sent?, hover]
    have hfit : ({ t with phase := .joined } : Task).Fits := trivial
    constructor
    · exact forall_mem_set hfits hfit i
    · rw [filterMap_sent?_set htask hsame, hslot]
  | received hphase hslot => cases hrunning
  | asked => exact ⟨hfits, hslot⟩
  | heeded hphase hasked => cases hrunning

theorem Sound.exists_sent (h : s.Sound) {e : SessionError} (hslot : s.slot = some e) :
    ∃ t ∈ s.tasks, t.client.fatalError? = some e := by
  have hmem : e ∈ s.tasks.filterMap Task.sent? := by simp [h.slot, hslot]
  obtain ⟨t, ht, hsent⟩ := List.mem_filterMap.mp hmem
  exact ⟨t, ht, (Task.sent?_eq_some_iff.mp hsent).2⟩

theorem perm_fatalErrors {tasks : List Task} (h : ∀ t ∈ tasks, t.Fits) :
    (tasks.filterMap fun t => t.client.fatalError?).Perm
      (tasks.filterMap Task.sent? ++ tasks.filterMap Task.held?) := by
  induction tasks with
  | nil => exact .nil
  | cons t tasks ih =>
    obtain ⟨hfit, hrest⟩ := List.forall_mem_cons.mp h
    have hperm := ih hrest
    simp only [List.filterMap_cons]
    rcases hfit.fault_cases with ⟨hheld, hsent⟩ | ⟨hheld, hsent⟩
    · rw [hheld, hsent]
      cases t.client.fatalError? with
      | none => exact hperm
      | some e => exact (hperm.cons e).trans List.perm_middle.symm
    · rw [hheld, hsent]
      cases t.client.fatalError? with
      | none => exact hperm
      | some e => exact hperm.cons e

theorem Sound.faults (h : s.Sound) : (s.clients.filterMap Client.fatalError?).Perm
    (s.slot.toList ++ s.tasks.filterMap Task.held?) := by
  rw [← h.slot, clients, List.filterMap_map]
  exact perm_fatalErrors h.fits

theorem Sound.fault (h : s.Sound) {t : Task} (ht : t ∈ s.tasks) {e : SessionError}
    (hfatal : t.client.fatalError? = some e) :
    t.phase = .sending e ∨ (t.phase = .over ∨ t.phase = .joined) ∧ s.slot = some e := by
  rcases (h.fits t ht).fault_cases with ⟨hheld, -⟩ | ⟨-, hsent⟩
  · exact .inl (Task.held?_eq_some_iff.mp (hheld.trans hfatal))
  · have hphase := (Task.sent?_eq_some_iff.mp (hsent.trans hfatal)).1
    have hmem : e ∈ s.tasks.filterMap Task.sent? :=
      List.mem_filterMap.mpr ⟨t, ht, hsent.trans hfatal⟩
    rw [h.slot] at hmem
    exact .inr ⟨hphase, Option.mem_toList.mp hmem⟩

end Concurrent

end PromptRelay
