import Mathlib.Data.List.Forall2
import PromptRelay.Proofs.Listener.Visits

namespace PromptRelay

def historyOf {State Occurrence : Type} (step : State → Occurrence → Option State)
    (done : State → Occurrence → List (ℕ × Step)) (s : State) :
    List Occurrence → List (ℕ × Step)
  | [] => []
  | o :: rest => done s o ++ (step s o).elim [] fun next => historyOf step done next rest

theorem historyOf_concat {State Occurrence : Type} {step : State → Occurrence → Option State}
    (done : State → Occurrence → List (ℕ × Step)) {s t : State} {before : List Occurrence}
    (h : before.foldlM step s = some t) (o : Occurrence) :
    historyOf step done s (before ++ [o]) = historyOf step done s before ++ done t o := by
  induction before generalizing s with
  | nil =>
    obtain rfl := Option.some.inj h
    cases hstep : step s o <;> simp [historyOf, hstep]
  | cons first rest ih =>
    rw [List.foldlM_cons] at h
    obtain ⟨next, hnext, hrest⟩ := Option.bind_eq_some_iff.mp h
    simp only [List.cons_append, historyOf, hnext, Option.elim_some, ih hrest, List.append_assoc]

def doneBy (i : ℕ) (history : List (ℕ × Step)) : List Step :=
  (history.filter fun x => x.1 = i).map Prod.snd

theorem doneBy_append (i : ℕ) (xs ys : List (ℕ × Step)) :
    doneBy i (xs ++ ys) = doneBy i xs ++ doneBy i ys := by
  rw [doneBy, List.filter_append, List.map_append]
  rfl

theorem doneBy_steps (i j : ℕ) (steps : List Step) :
    doneBy i (steps.map (j, ·)) = if j = i then steps else [] := by
  by_cases h : j = i <;> simp [doneBy, List.filter_map, Function.comp_def, h]

theorem doneBy_cons (i j : ℕ) (x : Step) (history : List (ℕ × Step)) :
    doneBy i ((j, x) :: history) = (if j = i then [x] else []) ++ doneBy i history := by
  rw [← doneBy_steps, ← doneBy_append]
  rfl

def transcriptOf (history : List (ℕ × Step)) : List Event :=
  eventsOf (history.map Prod.snd)

theorem filter_transcriptOf {history : List (ℕ × Step)} {peer : String} {i : ℕ}
    (h : ∀ j e, (j, .event e) ∈ history → (e.peer = peer ↔ j = i)) :
    (transcriptOf history).filter (fun e => e.peer = peer) = eventsOf (doneBy i history) := by
  induction history with
  | nil => rfl
  | cons x history ih =>
    obtain ⟨j, x⟩ := x
    have hrest := ih fun j e he => h j e (List.mem_cons_of_mem _ he)
    rw [doneBy_cons, eventsOf_append, ← hrest]
    cases x with
    | event e =>
      have hfirst : e.peer = peer ↔ j = i := h j e List.mem_cons_self
      change (e :: transcriptOf history).filter _ = _
      by_cases hj : j = i
      · rw [List.filter_cons_of_pos (by simpa using hfirst.mpr hj), if_pos hj]
        rfl
      · have hpeer : e.peer ≠ peer := fun hpeer => hj (hfirst.mp hpeer)
        rw [List.filter_cons_of_neg (by simpa using hpeer), if_neg hj]
        rfl
    | _ => split_ifs <;> rfl

theorem forall₂_set {α β : Type} {R : α → β → Prop} {xs : List α} {ys : List β} {y z : β} {i : ℕ}
    (h : List.Forall₂ R xs ys) (hi : ys[i]? = some y) (hz : ∀ x, R x y → R x z) :
    List.Forall₂ R xs (ys.set i z) := by
  induction h generalizing i with
  | nil => cases hi
  | cons hfirst hrest ih =>
    cases i with
    | zero =>
      obtain rfl := Option.some.inj hi
      exact .cons (hz _ hfirst) hrest
    | succ i => exact .cons hfirst (ih hi)

/-- The clients of a listener are those that arrived, in order, and the history of the listener
holds what each of them has done. -/
structure Attends (v : Service) (arrivals : List (String × Connection))
    (history : List (ℕ × Step)) (clients : List Client) : Prop where
  visits : List.Forall₂ (fun a k => Client.Visits v a.1 a.2 k) arrivals clients
  done : ∀ i, doneBy i history = (clients[i]?.map Client.steps).getD []

inductive Change (v : Service) (clients : List Client) :
    List (String × Connection) → List (ℕ × Step) → List Client → Prop
  | arrived (peer : String) (c : Connection) :
      Change v clients [(peer, c)] [] (clients ++ [.arrive peer c])
  | proceeded {i : ℕ} {k : Client} (hi : clients[i]? = some k) (calls : List Call) :
      Change v clients [] ((k.nextSteps v calls).map (i, ·))
        (clients.set i (k.proceed v calls).1)
  | none : Change v clients [] [] clients

namespace Attends

variable {v : Service} {arrivals newArrivals : List (String × Connection)}
  {history newHistory : List (ℕ × Step)} {clients clients' : List Client}

theorem none (v : Service) : Attends v [] [] [] :=
  ⟨.nil, fun _ => rfl⟩

theorem arrived (h : Attends v arrivals history clients) (peer : String) (c : Connection) :
    Attends v (arrivals ++ [(peer, c)]) history (clients ++ [.arrive peer c]) := by
  refine ⟨List.rel_append h.visits (.cons .arrived .nil), ?_⟩
  intro i
  rw [h.done i]
  rcases Nat.lt_trichotomy i clients.length with hlt | rfl | hgt
  · rw [List.getElem?_append_left hlt]
  · rw [List.getElem?_eq_none (Nat.le_refl _), List.getElem?_concat_length]
    rfl
  · have hle : (clients ++ [Client.arrive peer c]).length ≤ i := by
      rw [List.length_append]
      exact hgt
    rw [List.getElem?_eq_none (Nat.le_of_lt hgt), List.getElem?_eq_none hle]

theorem proceeded (h : Attends v arrivals history clients) {i : ℕ} {k : Client}
    (hi : clients[i]? = some k) (calls : List Call) :
    Attends v arrivals (history ++ (k.nextSteps v calls).map (i, ·))
      (clients.set i (k.proceed v calls).1) := by
  refine ⟨forall₂_set h.visits hi fun _ hvisits => hvisits.proceeded calls, ?_⟩
  intro j
  have hlt := (List.getElem?_eq_some_iff.mp hi).1
  rw [doneBy_append, doneBy_steps, h.done j, List.getElem?_set]
  by_cases hj : i = j
  · subst hj
    rw [if_pos rfl, if_pos rfl, if_pos hlt, hi]
    rfl
  · simp [hj]

theorem changed (h : Attends v arrivals history clients)
    (hchange : Change v clients newArrivals newHistory clients') :
    Attends v (arrivals ++ newArrivals) (history ++ newHistory) clients' := by
  cases hchange with
  | arrived peer c =>
    rw [List.append_nil]
    exact h.arrived peer c
  | proceeded hi calls =>
    rw [List.append_nil]
    exact h.proceeded hi calls
  | none =>
    rw [List.append_nil, List.append_nil]
    exact h

theorem length_eq (h : Attends v arrivals history clients) : arrivals.length = clients.length :=
  h.visits.length_eq

theorem visits_at (h : Attends v arrivals history clients) {i : ℕ} {peer : String}
    {c : Connection} (hi : arrivals[i]? = some (peer, c)) :
    ∃ k, clients[i]? = some k ∧ k.Visits v peer c := by
  obtain ⟨hlt, harrival⟩ := List.getElem?_eq_some_iff.mp hi
  have hclient : i < clients.length := h.length_eq ▸ hlt
  refine ⟨clients[i], List.getElem?_eq_getElem hclient, ?_⟩
  have hvisits := h.visits.get hlt hclient
  rw [List.get_eq_getElem, List.get_eq_getElem, harrival] at hvisits
  exact hvisits

theorem peer_of_event (h : Attends v arrivals history clients) {j : ℕ} {e : Event}
    (hmem : (j, .event e) ∈ history) : (arrivals.map Prod.fst)[j]? = some e.peer := by
  have hdone : .event e ∈ doneBy j history :=
    List.mem_map.mpr ⟨_, List.mem_filter.mpr ⟨hmem, decide_eq_true rfl⟩, rfl⟩
  rw [h.done j] at hdone
  cases hclient : clients[j]? with
  | none => simp [hclient] at hdone
  | some k =>
    rw [hclient] at hdone
    have hlt : j < arrivals.length := h.length_eq ▸ (List.getElem?_eq_some_iff.mp hclient).1
    obtain ⟨k', hk', hvisits⟩ := h.visits_at (List.getElem?_eq_getElem hlt)
    obtain rfl := Option.some.inj (hclient.symm.trans hk')
    have hevent : e ∈ eventsOf k.steps := List.mem_filterMap.mpr ⟨_, hdone, rfl⟩
    rw [List.getElem?_map, List.getElem?_eq_getElem hlt, hvisits.peers.2.2 e hevent]
    rfl

theorem transcript (h : Attends v arrivals history clients)
    (hdistinct : (arrivals.map Prod.fst).Nodup) {i : ℕ} {peer : String} {c : Connection}
    (harrival : arrivals[i]? = some (peer, c)) :
    (transcriptOf history).filter (fun e => e.peer = peer) = eventsOf (doneBy i history) := by
  have hpeer : (arrivals.map Prod.fst)[i]? = some peer := by
    rw [List.getElem?_map, harrival]
    rfl
  apply filter_transcriptOf
  intro j e hmem
  have hevent := h.peer_of_event hmem
  constructor
  · intro hsame
    have hlt := (List.getElem?_eq_some_iff.mp hevent).1
    apply (List.getElem?_inj hlt hdistinct).mp
    rw [hevent, hpeer, hsame]
  · rintro rfl
    exact Option.some.inj (hevent.symm.trans hpeer)

end Attends

end PromptRelay
