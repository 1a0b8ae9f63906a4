import PromptRelay.Proofs.Listener.Faults
import PromptRelay.Proofs.Listener.Succession

namespace PromptRelay

namespace Concurrent

def arrivals (occurrences : List Occurrence) : List (String × Connection) :=
  occurrences.filterMap fun
    | .accepted peer c => some (peer, c)
    | _ => none

def done (v : Service) (s : Concurrent) : Occurrence → List (ℕ × Step)
  | .proceeded i => (s.clients[i]?.map (Client.nextSteps v s.calls)).getD [] |>.map (i, ·)
  | _ => []

def history (v : Service) (occurrences : List Occurrence) : List (ℕ × Step) :=
  historyOf (step v) (done v) {} occurrences

section

variable {v : Service} {s s' : Concurrent} {o : Occurrence} {occurrences : List Occurrence}

theorem arrivals_concat (occurrences : List Occurrence) (o : Occurrence) :
    arrivals (occurrences ++ [o]) = arrivals occurrences ++ arrivals [o] :=
  List.filterMap_append

theorem history_concat (h : ({} : Concurrent).run v occurrences = some s) (o : Occurrence) :
    history v (occurrences ++ [o]) = history v occurrences ++ s.done v o :=
  historyOf_concat _ h o

theorem clients_set_of_client_eq {i : ℕ} {t t' : Task} (htask : s.tasks[i]? = some t)
    (h : t'.client = t.client) : (s.tasks.set i t').map Task.client = s.clients := by
  obtain ⟨before, after, htasks, hset⟩ := exists_set htask t'
  rw [hset, clients, htasks, List.map_append, List.map_append, List.map_cons, List.map_cons, h]

theorem Moves.clients_cases (h : Moves v s o s') :
    (∃ peer c, o = .accepted peer c ∧ s'.clients = s.clients ++ [.arrive peer c]) ∨
      (∃ i k, o = .proceeded i ∧ s.clients[i]? = some k ∧
        s'.clients = s.clients.set i (k.proceed v s.calls).1) ∨
      (arrivals [o] = [] ∧ s.done v o = [] ∧ s'.clients = s.clients) := by
  cases h with
  | accepted hphase => exact .inl ⟨_, _, rfl, List.map_append⟩
  | @proceeded i t htask hserving =>
    refine .inr (.inl ⟨i, t.client, rfl, ?_, List.map_set⟩)
    rw [clients, List.getElem?_map, htask]
    rfl
  | sent htask hsending hslot =>
    exact .inr (.inr ⟨rfl, rfl, clients_set_of_client_eq htask rfl⟩)
  | joined hphase htask hover =>
    exact .inr (.inr ⟨rfl, rfl, clients_set_of_client_eq htask rfl⟩)
  | received hphase hslot => exact .inr (.inr ⟨rfl, rfl, stop_clients _ _⟩)
  | heeded hphase hasked => exact .inr (.inr ⟨rfl, rfl, stop_clients _ _⟩)
  | _ => exact .inr (.inr ⟨rfl, rfl, rfl⟩)

theorem Moves.change (h : Moves v s o s') :
    Change v s.clients (arrivals [o]) (s.done v o) s'.clients := by
  rcases h.clients_cases with
    ⟨peer, c, rfl, hclients⟩ | ⟨i, k, rfl, hk, hclients⟩ | ⟨harrivals, hdone, hclients⟩
  · rw [hclients]
    exact .arrived peer c
  · rw [hclients, done, hk]
    exact .proceeded hk s.calls
  · rw [harrivals, hdone, hclients]
    exact .none

theorem attends_run (h : ({} : Concurrent).run v occurrences = some s) :
    Attends v (arrivals occurrences) (history v occurrences) s.clients := by
  induction occurrences using List.reverseRecOn generalizing s with
  | nil =>
    obtain rfl := Option.some.inj h
    exact .none v
  | append_singleton before o ih =>
    rw [run_append] at h
    obtain ⟨t, hbefore, hlast⟩ := Option.bind_eq_some_iff.mp h
    have hstep : t.step v o = some s := by simpa [run] using hlast
    rw [arrivals_concat, history_concat hbefore]
    exact (ih hbefore).changed (moves_of_step hstep).change

end

end Concurrent

def Isolated (v : Service) (arrivals : List (String × Connection)) (history : List (ℕ × Step))
    (clients : List Client) : Prop :=
  arrivals.length = clients.length ∧
    ∀ i peer c, arrivals[i]? = some (peer, c) →
      ∃ k, clients[i]? = some k ∧ ServedAsAlone v peer c k ∧ doneBy i history = k.steps ∧
        ((arrivals.map Prod.fst).Nodup →
          (transcriptOf history).filter (fun e => e.peer = peer) = eventsOf k.steps)

theorem Attends.isolated {v : Service} {arrivals : List (String × Connection)}
    {history : List (ℕ × Step)} {clients : List Client} (hsteady : v.IsSteady)
    (h : Attends v arrivals history clients) : Isolated v arrivals history clients := by
  refine ⟨h.length_eq, ?_⟩
  intro i peer c harrival
  obtain ⟨k, hk, hvisits⟩ := h.visits_at harrival
  have hdone : doneBy i history = k.steps := by
    rw [h.done i, hk]
    rfl
  refine ⟨k, hk, servedAsAlone_of_visits hsteady hvisits, hdone, ?_⟩
  intro hdistinct
  rw [← hdone]
  exact h.transcript hdistinct harrival

def Client.view (v : Service) (k : Client) :
    Option (Except SessionError Summary) × List UInt8 × List Call × List Event :=
  (k.result?, k.written, k.begunCalls v, (eventsOf k.steps).map Event.untimed)

theorem ServedAsAlone.view_eq {v : Service} {peer : String} {c : Connection} {k k' : Client}
    (h : ServedAsAlone v peer c k) (h' : ServedAsAlone v peer c k') (hk : k.result? ≠ none)
    (hk' : k'.result? ≠ none) : k.view v = k'.view v := by
  obtain ⟨result, hresult⟩ := Option.ne_none_iff_exists'.mp hk
  obtain ⟨result', hresult'⟩ := Option.ne_none_iff_exists'.mp hk'
  obtain ⟨heq, hwritten, hcalls, hevents, -⟩ := h.ended result hresult
  obtain ⟨heq', hwritten', hcalls', hevents', -⟩ := h'.ended result' hresult'
  rw [Client.view, hresult, heq, hwritten, hcalls, hevents, Client.view, hresult', heq', hwritten',
    hcalls', hevents']

theorem Isolated.servedAsAlone {v : Service} {arrivals : List (String × Connection)}
    {history : List (ℕ × Step)} {clients : List Client} (h : Isolated v arrivals history clients)
    {i : ℕ} {peer : String} {c : Connection} {k : Client} (hi : arrivals[i]? = some (peer, c))
    (hk : clients[i]? = some k) : ServedAsAlone v peer c k := by
  obtain ⟨k', hk', hserved, -⟩ := h.2 i peer c hi
  obtain rfl := Option.some.inj (hk.symm.trans hk')
  exact hserved

/-- If the outcome of a call depends on nothing but the call, a client is served as if no other had
come: by a listener that serves clients side by side, whatever the order in which their sessions go
on, as well as by one that serves them one after the other, and also if the fault of another
client, or a request to shut down, ends its session early. So a client whose session ends sees the
same of both listeners. -/
theorem clients_isolated {v : Service} (hsteady : v.IsSteady) :
    (∀ occurrences s, ({} : Concurrent).run v occurrences = some s →
      Isolated v (Concurrent.arrivals occurrences) (Concurrent.history v occurrences) s.clients) ∧
    (∀ occurrences s, ({} : Sequential).run v occurrences = some s →
      Isolated v (Sequential.arrivals occurrences) (Sequential.history v occurrences) s.clients) ∧
    ∀ (attended served) (s : Concurrent) (s' : Sequential),
      ({} : Concurrent).run v attended = some s → ({} : Sequential).run v served = some s' →
      ∀ (i j : ℕ) (peer : String) (c : Connection) (k k' : Client),
        (Concurrent.arrivals attended)[i]? = some (peer, c) → s.clients[i]? = some k →
        (Sequential.arrivals served)[j]? = some (peer, c) → s'.clients[j]? = some k' →
          k.result? ≠ none → k'.result? ≠ none → k.view v = k'.view v := by
  have hconcurrent {occurrences s} (hrun : ({} : Concurrent).run v occurrences = some s) :=
    (Concurrent.attends_run hrun).isolated hsteady
  have hsequential {occurrences s} (hrun : ({} : Sequential).run v occurrences = some s) :=
    (Sequential.reached_run hrun).attends.isolated hsteady
  refine ⟨fun _ _ => hconcurrent, fun _ _ => hsequential, ?_⟩
  intro attended served s s' hrun hrun' i j peer c k k' hi hk hj hk' hended hended'
  have hserved := (hconcurrent hrun).servedAsAlone hi hk
  have hserved' := (hsequential hrun').servedAsAlone hj hk'
  exact hserved.view_eq hserved' hended hended'

def cutShort : List Concurrent.Occurrence :=
  [.accepted "first"
      { arrivals := [.bytes (Utf8.encode "AI_REQ: a\n".toList)]
        accepts := fun _ n => .ok (min n 2) },
    .proceeded 0, .accepted "second" { arrivals := [.bytes (Utf8.encode "AI_REQ: b\n".toList)] },
    .proceeded 1, .proceeded 0, .proceeded 1, .proceeded 0, .proceeded 0, .proceeded 1, .sent 1,
    .received]

theorem isolated_cutShort :
    (∃ s, ({} : Concurrent).run Sequential.moody cutShort = some s ∧
      s.result? = some (.error (.fatal (.backend (.model "gone")))) ∧
      s.clients.map (fun k => (k.result?.isNone, k.written)) =
        [(true, Utf8.encode "ye".toList), (false, [])] ∧
      Isolated Sequential.moody (Concurrent.arrivals cutShort)
        (Concurrent.history Sequential.moody cutShort) s.clients) ∧
    ∃ s, ({} : Sequential).run Sequential.moody Sequential.threeVisits = some s ∧
      Isolated Sequential.moody (Sequential.arrivals Sequential.threeVisits)
        (Sequential.history Sequential.moody Sequential.threeVisits) s.clients := by
  have hsteady : Sequential.moody.IsSteady := fun _ _ => rfl
  obtain ⟨hconcurrent, hsequential, -⟩ := clients_isolated hsteady
  constructor
  · have hview : (({} : Concurrent).run Sequential.moody cutShort).map
        (fun s => (s.result?, s.clients.map fun k => (k.result?.isNone, k.written))) =
          some (some (.error (.fatal (.backend (.model "gone")))),
            [(true, Utf8.encode "ye".toList), (false, [])]) := by
      decide +kernel
    obtain ⟨s, hrun, hs⟩ := Option.map_eq_some_iff.mp hview
    obtain ⟨hresult, hclients⟩ := Prod.mk.inj hs
    exact ⟨s, hrun, hresult, hclients, hconcurrent _ _ hrun⟩
  · have hruns : (({} : Sequential).run Sequential.moody Sequential.threeVisits).isSome = true := by
      decide +kernel
    obtain ⟨s, hrun⟩ := Option.isSome_iff_exists.mp hruns
    exact ⟨s, hrun, hsequential _ _ hrun⟩

end PromptRelay
