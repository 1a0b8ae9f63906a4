import PromptRelay.Proofs.Connection.Stream
import PromptRelay.Proofs.Listener.PendingFaults

namespace PromptRelay.Concurrent

variable {v : Service} {s s' : Concurrent} {o : Occurrence}

theorem result?_of_accepting (h : s.phase = .accepting) : s.result? = none := by
  rw [result?, h]

theorem result?_of_pausing (h : s.phase = .pausing) : s.result? = none := by
  rw [result?, h]

theorem stop_clients (s : Concurrent) (result : Except ListenError Unit) :
    (s.stop result).clients = s.clients := by
  have hclient : Task.client ∘ Task.abort = Task.client := funext Task.abort_client
  rw [clients, stop, List.map_map, hclient, clients]

def IsStill (s : Concurrent) : Prop :=
  ∀ t ∈ s.tasks, t.phase ≠ .serving ∧ t.held? = none

theorem stop_isStill (s : Concurrent) (result : Except ListenError Unit) :
    (s.stop result).IsStill := by
  intro t ht
  obtain ⟨before, -, rfl⟩ := List.mem_map.mp ht
  exact before.abort_still

theorem Moves.stops (h : Moves v s o s') (hrunning : s.result? = none)
    {result : Except ListenError Unit} (hresult : s'.result? = some result) :
    s' = { s with slot := s'.slot }.stop result ∧
      ((∃ e, o = .received ∧ s.slot = some e ∧ result = .error (.fatal e)) ∨
        o = .heeded ∧ s.isAsked = true ∧ result = .ok ()) := by
  cases h with
  | @received e hphase hslot =>
    obtain rfl := Option.some.inj hresult
    exact ⟨rfl, .inl ⟨e, rfl, hslot, rfl⟩⟩
  | heeded hphase hasked =>
    obtain rfl := Option.some.inj hresult
    exact ⟨rfl, .inr ⟨rfl, hasked, rfl⟩⟩
  | notAccepted hphase => cases hresult
  | pauseEnded hphase => cases hresult
  | _ =>
    have hsame : s.result? = some result := hresult
    rw [hrunning] at hsame
    cases hsame

theorem Moves.of_stopped (h : Moves v s o s') (hstopped : s.result? ≠ none) (hstill : s.IsStill) :
    o = .asked ∧ s' = { s with isAsked := true } := by
  cases h with
  | asked => exact ⟨rfl, rfl⟩
  | proceeded htask hserving => exact absurd hserving (hstill _ (List.mem_of_getElem? htask)).1
  | sent htask hsending hslot =>
    have hheld := (hstill _ (List.mem_of_getElem? htask)).2
    rw [Task.held?, hsending] at hheld
    cases hheld
  | pauseEnded hphase => exact absurd (result?_of_pausing hphase) hstopped
  | accepted hphase => exact absurd (result?_of_accepting hphase) hstopped
  | notAccepted hphase => exact absurd (result?_of_accepting hphase) hstopped
  | joined hphase htask hover => exact absurd (result?_of_accepting hphase) hstopped
  | received hphase hslot => exact absurd (result?_of_accepting hphase) hstopped
  | heeded hphase hasked => exact absurd (result?_of_accepting hphase) hstopped

theorem Moves.asked_or (h : Moves v s o s') (hasked : s'.isAsked = true) :
    s.isAsked = true ∨ o = .asked := by
  cases h with
  | asked => exact .inr rfl
  | _ => exact .inl hasked

def Ends (s : Concurrent) : Except ListenError Unit → Prop
  | .ok () => s.isAsked = true
  | .error (.fatal e) => ∃ k ∈ s.clients, k.fatalError? = some e
  | .error _ => False

structure Reached (occurrences : List Occurrence) (s : Concurrent) : Prop where
  asked : s.isAsked = true → .asked ∈ occurrences
  sound : s.result? = none → s.Sound
  ends : ∀ result, s.result? = some result → s.Ends result
  still : s.result? ≠ none → s.IsStill

section

variable {occurrences : List Occurrence}

theorem Reached.asked_next (h : Reached occurrences s) (hmoves : Moves v s o s')
    (hasked : s'.isAsked = true) : .asked ∈ occurrences ++ [o] := by
  rw [List.mem_append, List.mem_singleton]
  rcases hmoves.asked_or hasked with hbefore | rfl
  · exact .inl (h.asked hbefore)
  · exact .inr rfl

theorem Reached.next_of_running (h : Reached occurrences s) (hmoves : Moves v s o s')
    (hrunning : s.result? = none) : Reached (occurrences ++ [o]) s' where
  asked := h.asked_next hmoves
  sound := (h.sound hrunning).next hmoves
  ends result hresult := by
    obtain ⟨hstop, ⟨e, -, hslot, rfl⟩ | ⟨-, hasked, rfl⟩⟩ := hmoves.stops hrunning hresult
    · obtain ⟨t, ht, hfatal⟩ := (h.sound hrunning).exists_sent hslot
      refine ⟨t.client, ?_, hfatal⟩
      rw [hstop, stop_clients]
      exact List.mem_map_of_mem ht
    · rw [hstop]
      exact hasked
  still hstopped := by
    obtain ⟨result, hresult⟩ := Option.ne_none_iff_exists'.mp hstopped
    rw [(hmoves.stops hrunning hresult).1]
    exact stop_isStill _ _

theorem Reached.next_of_stopped (h : Reached occurrences s) (hmoves : Moves v s o s')
    (hstopped : s.result? ≠ none) : Reached (occurrences ++ [o]) s' := by
  -- That it is asked once more is all that can still occur, and it changes nothing else.
  have hasked := h.asked_next hmoves
  obtain ⟨-, rfl⟩ := hmoves.of_stopped hstopped (h.still hstopped)
  refine ⟨hasked, fun hrunning => absurd hrunning hstopped, ?_, fun _ => h.still hstopped⟩
  intro result hresult
  match result, h.ends result hresult with
  | .ok (), _ => exact rfl
  | .error (.fatal e), hends => exact hends

theorem reached_run (h : ({} : Concurrent).run v occurrences = some s) :
    Reached occurrences s := by
  refine run_induction ?_ ?_ h
  · have hsound : ({} : Concurrent).Sound := ⟨List.forall_mem_nil _, rfl⟩
    exact ⟨nofun, fun _ => hsound, nofun, fun _ => List.forall_mem_nil _⟩
  · intro before t o t' hreached hmoves
    by_cases hrunning : t.result? = none
    · exact hreached.next_of_running hmoves hrunning
    · exact hreached.next_of_stopped hmoves hrunning

end

section

theorem run_cons_of_moves {occurrences : List Occurrence} (h : Moves v s o s') :
    s.run v (o :: occurrences) = s'.run v occurrences := by
  rw [run, List.foldlM_cons, step_of_moves h]
  rfl

theorem exists_accepting (v : Service) (h : s.result? = none) :
    ∃ pause, (pause = [] ∨ pause = [.pauseEnded]) ∧
      s.run v pause = some { s with phase := .accepting } := by
  cases hphase : s.phase with
  | accepting =>
    refine ⟨[], .inl rfl, ?_⟩
    rw [← hphase]
    rfl
  | pausing =>
    refine ⟨[.pauseEnded], .inr rfl, ?_⟩
    rw [run_cons_of_moves (.pauseEnded hphase)]
    rfl
  | stopped result =>
    rw [result?, hphase] at h
    cases h

theorem exists_received (hphase : s.phase = .accepting) (hsound : s.Sound) {t : Task}
    (ht : t ∈ s.tasks) {e : SessionError} (hfatal : t.client.fatalError? = some e) :
    ∃ way s' first, (way = [.received] ∨ ∃ i, way = [.sent i, .received]) ∧
      s.run v way = some s' ∧ s'.result? = some (.error (.fatal first)) := by
  cases hslot : s.slot with
  | some first =>
    -- The slot may hold another fault, which is received instead.
    have hreceived : Moves v s .received _ := .received hphase hslot
    have hrun : s.run v [.received] = some _ := (run_cons_of_moves hreceived).trans rfl
    exact ⟨_, _, first, .inl rfl, hrun, rfl⟩
  | none =>
    rcases hsound.fault ht hfatal with hsending | ⟨-, hfull⟩
    · obtain ⟨i, htask⟩ := List.mem_iff_getElem?.mp ht
      let s₁ : Concurrent :=
        { s with tasks := s.tasks.set i { t with phase := .over }, slot := some e }
      have hsent : Moves v s (.sent i) s₁ := .sent htask hsending hslot
      have hreceived : Moves v s₁ .received _ := .received hphase rfl
      have hrun : s.run v [.sent i, .received] = some _ :=
        (run_cons_of_moves hsent).trans ((run_cons_of_moves hreceived).trans rfl)
      exact ⟨_, _, e, .inr ⟨i, rfl⟩, hrun, rfl⟩
    · rw [hslot] at hfull
      cases hfull

end

section

variable {occurrences : List Occurrence}

theorem Reached.result_cases (h : Reached occurrences s) {result : Except ListenError Unit}
    (hresult : s.result? = some result) : result = .ok () ∧ .asked ∈ occurrences ∨
      ∃ k ∈ s.clients, ∃ fault, k.result? = some (.error (.backend fault)) ∧
        result = .error (.fatal (.backend fault)) := by
  match result, h.ends result hresult with
  | .ok (), hasked => exact .inl ⟨rfl, h.asked hasked⟩
  | .error (.fatal e), ⟨k, hk, hfatal⟩ =>
    obtain ⟨fault, rfl, hended⟩ := Client.fatalError?_eq_some_iff.mp hfatal
    exact .inr ⟨k, hk, fault, hended, rfl⟩

theorem Reached.stops (h : Reached occurrences s) (hrunning : s.result? = none)
    (hmoves : Moves v s o s') {result : Except ListenError Unit}
    (hresult : s'.result? = some result) :
    (∃ fault, o = .received ∧ s.slot = some (.backend fault) ∧
      result = .error (.fatal (.backend fault))) ∨
      o = .heeded ∧ .asked ∈ occurrences ∧ result = .ok () := by
  obtain ⟨-, ⟨e, ho, hslot, hfatal⟩ | ⟨ho, hasked, hok⟩⟩ := hmoves.stops hrunning hresult
  · obtain ⟨t, -, hsent⟩ := (h.sound hrunning).exists_sent hslot
    obtain ⟨fault, rfl, -⟩ := Client.fatalError?_eq_some_iff.mp hsent
    exact .inl ⟨fault, ho, hslot, hfatal⟩
  · exact .inr ⟨ho, h.asked hasked, hok⟩

theorem run_accepted (v : Service) (hphase : s.phase = .accepting) (peer : String)
    (c : Connection) : ∃ s', s.run v [.accepted peer c] = some s' ∧ s'.result? = none ∧
      s'.clients = s.clients ++ [Client.arrive peer c] := by
  have haccepted : Moves v s (.accepted peer c) _ := .accepted hphase
  have hrun : s.run v [.accepted peer c] = some _ := (run_cons_of_moves haccepted).trans rfl
  refine ⟨_, hrun, result?_of_accepting hphase, ?_⟩
  rw [clients, List.map_append]
  rfl

/-- No fault is lost: while a listener runs, the faults that sessions have ended with are the one in
the slot and those that tasks hold, and some fault can be received at any time. None is invented,
and neither errors of connections nor the ends of sessions nor clients that cannot be accepted stop
a listener: it stops with a fault that a session ended with, or because it was asked to. -/
theorem run_faults (v : Service) (h : ({} : Concurrent).run v occurrences = some s) :
    (s.result? = none →
      (∀ t ∈ s.tasks, ∀ fault, t.client.result? = some (.error (.backend fault)) →
        t.phase = .sending (.backend fault) ∨
          (t.phase = .over ∨ t.phase = .joined) ∧ s.slot = some (.backend fault)) ∧
        (s.clients.filterMap Client.fatalError?).Perm
          (s.slot.toList ++ s.tasks.filterMap Task.held?)) ∧
      (∀ result, s.result? = some result → result = .ok () ∧ .asked ∈ occurrences ∨
        ∃ k ∈ s.clients, ∃ fault, k.result? = some (.error (.backend fault)) ∧
          result = .error (.fatal (.backend fault))) ∧
      (s.result? = none → ∀ o s' result, s.step v o = some s' → s'.result? = some result →
        (∃ fault, o = .received ∧ s.slot = some (.backend fault) ∧
          result = .error (.fatal (.backend fault))) ∨
          o = .heeded ∧ .asked ∈ occurrences ∧ result = .ok ()) ∧
      (s.result? = none → ∃ pause, (pause = [] ∨ pause = [.pauseEnded]) ∧
        (∀ peer c, ∃ s', s.run v (pause ++ [.accepted peer c]) = some s' ∧ s'.result? = none ∧
          s'.clients = s.clients ++ [Client.arrive peer c]) ∧
        ∀ k ∈ s.clients, ∀ fault, k.result? = some (.error (.backend fault)) →
          ∃ way s' first, (way = [.received] ∨ ∃ i, way = [.sent i, .received]) ∧
            s.run v (pause ++ way) = some s' ∧ s'.result? = some (.error (.fatal first))) := by
  have hreached := reached_run h
  refine ⟨?_, fun result => hreached.result_cases, ?_, ?_⟩
  · intro hrunning
    have hsound := hreached.sound hrunning
    refine ⟨?_, hsound.faults⟩
    intro t ht fault hended
    exact hsound.fault ht (Client.fatalError?_eq_some_iff.mpr ⟨fault, rfl, hended⟩)
  · intro hrunning o s' result hstep hresult
    exact hreached.stops hrunning (moves_of_step hstep) hresult
  · intro hrunning
    obtain ⟨pause, hpause, hrun⟩ := exists_accepting v hrunning
    have hsound : ({ s with phase := .accepting } : Concurrent).Sound :=
      ⟨(hreached.sound hrunning).fits, (hreached.sound hrunning).slot⟩
    refine ⟨pause, hpause, ?_, ?_⟩
    · intro peer c
      rw [run_append, hrun]
      exact run_accepted v rfl peer c
    · intro k hk fault hended
      obtain ⟨t, ht, rfl⟩ := List.mem_map.mp hk
      simp only [run_append, hrun, Option.bind_some]
      exact exists_received rfl hsound ht
        (Client.fatalError?_eq_some_iff.mpr ⟨fault, rfl, hended⟩)

end

def failing : Service where
  backend :=
    { kind := .onDevice
      description := "failing"
      answer := fun earlier _ =>
        { outcome := .error (if earlier.isEmpty then .model "gone" else .workerCrashed "killed") } }
  dispatch := {}

def bothFail : List Occurrence :=
  [.accepted "first" oneRequest, .accepted "second" oneRequest, .proceeded 0, .proceeded 1, .proceeded 1,
    .proceeded 0, .notAccepted "too many open files", .proceeded 1, .proceeded 0, .sent 0,
    .pauseEnded, .joined 0]

theorem run_bothFail : ∃ s, ({} : Concurrent).run failing bothFail = some s ∧ s.result? = none ∧
    s.slot = some (.backend (.workerCrashed "killed")) ∧
    s.tasks.map Task.phase = [.joined, .sending (.backend (.model "gone"))] ∧
    (s.clients.filterMap Client.fatalError?).Perm
      [.backend (.workerCrashed "killed"), .backend (.model "gone")] ∧
    ∀ s' result, s.step failing .received = some s' → s'.result? = some result →
      result = .error (.fatal (.backend (.workerCrashed "killed"))) := by
  have hview : (({} : Concurrent).run failing bothFail).map
      (fun s => (s.result?.isNone, s.slot, s.tasks.map Task.phase, s.tasks.filterMap Task.held?)) =
        some (true, some (.backend (.workerCrashed "killed")),
          [.joined, .sending (.backend (.model "gone"))], [.backend (.model "gone")]) := by
    decide +kernel
  obtain ⟨s, hrun, hs⟩ := Option.map_eq_some_iff.mp hview
  simp only [Prod.mk.injEq, Option.isNone_iff_eq_none] at hs
  obtain ⟨hrunning, hslot, hphases, hheld⟩ := hs
  obtain ⟨hkept, -, hstops, -⟩ := run_faults failing hrun
  obtain ⟨-, hperm⟩ := hkept hrunning
  rw [hslot, hheld] at hperm
  refine ⟨s, hrun, hrunning, hslot, hphases, hperm, ?_⟩
  intro s' result hstep hresult
  rcases hstops hrunning _ s' result hstep hresult with ⟨fault, -, hfault, hend⟩ | ⟨ho, -⟩
  · rw [hend, ← Option.some.inj (hslot.symm.trans hfault)]
  · cases ho

end PromptRelay.Concurrent
