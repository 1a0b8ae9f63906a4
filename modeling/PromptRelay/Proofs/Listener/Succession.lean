import Mathlib.Data.List.Induction
import Mathlib.Tactic.SplitIfs
import PromptRelay.Listener.Sequential
import PromptRelay.Proofs.Connection.Stream
import PromptRelay.Proofs.Listener.Attendance
import PromptRelay.Proofs.Listener.PendingFaults

namespace PromptRelay

def Client.IsOver (k : Client) : Prop :=
  ∃ result, k.result? = some result ∧ ∀ fault, result ≠ .error (.backend fault)

theorem Client.isOver_iff {k : Client} :
    k.IsOver ↔ (∃ result, k.result? = some result) ∧ k.fatalError? = none := by
  unfold IsOver fatalError?
  cases hresult : k.result? with
  | none => simp
  | some result =>
    match result with
    | .ok summary => simp
    | .error (.io cause) => simp [SessionError.isFatal]
    | .error (.backend fault) => simp [SessionError.isFatal]

theorem Client.IsOver.result?_ne {k : Client} (h : k.IsOver) : k.result? ≠ none := by
  obtain ⟨result, hresult, -⟩ := h
  simp [hresult]

namespace Sequential

inductive Moves (v : Service) (s : Sequential) : Occurrence → Sequential → Prop
  | accepted {peer : String} {c : Connection} (hphase : s.phase = .accepting) :
      Moves v s (.accepted peer c) { s with phase := .serving (.arrive peer c) }
  | notAccepted {cause : String} (hphase : s.phase = .accepting) :
      Moves v s (.notAccepted cause) { s with phase := .pausing }
  | pauseEnded (hphase : s.phase = .pausing) : Moves v s .pauseEnded { s with phase := .accepting }
  | wentOn {k : Client} (hphase : s.phase = .serving k)
      (hresult : (k.proceed v s.calls).1.result? = none) :
      Moves v s .proceeded
        { s with
          phase := .serving (k.proceed v s.calls).1
          calls := (k.proceed v s.calls).2 }
  | ended {k : Client} (hphase : s.phase = .serving k) (hover : (k.proceed v s.calls).1.IsOver) :
      Moves v s .proceeded
        { s with
          phase := .accepting
          served := (k.proceed v s.calls).1 :: s.served
          calls := (k.proceed v s.calls).2 }
  | failed {k : Client} {fault : Fault} (hphase : s.phase = .serving k)
      (hfault : (k.proceed v s.calls).1.result? = some (.error (.backend fault))) :
      Moves v s .proceeded
        { s with
          phase := .stopped (.error (.fatal (.backend fault)))
          served := (k.proceed v s.calls).1 :: s.served
          calls := (k.proceed v s.calls).2 }
  | heededIdle (hphase : s.phase = .accepting) (hasked : s.isAsked = true) :
      Moves v s .heeded { s with phase := .stopped (.ok ()) }
  | heeded {k : Client} (hphase : s.phase = .serving k) (hasked : s.isAsked = true) :
      Moves v s .heeded { s with phase := .stopped (.ok ()), served := k :: s.served }
  | asked : Moves v s .asked { s with isAsked := true }

variable {v : Service} {s s' : Sequential} {o : Occurrence}

theorem moves_of_proceeded {k : Client} (hphase : s.phase = .serving k) :
    Moves v s .proceeded
      ({ s with calls := (k.proceed v s.calls).2 }.follow (k.proceed v s.calls).1) := by
  unfold follow
  cases hresult : (k.proceed v s.calls).1.result? with
  | none => exact .wentOn hphase hresult
  | some result =>
    cases hfatal : (k.proceed v s.calls).1.fatalError? with
    | none => exact .ended hphase (Client.isOver_iff.mpr ⟨⟨result, hresult⟩, hfatal⟩)
    | some e =>
      obtain ⟨fault, rfl, hfault⟩ := Client.fatalError?_eq_some_iff.mp hfatal
      exact .failed hphase hfault

theorem moves_of_step (h : s.step v o = some s') : Moves v s o s' := by
  unfold step at h
  split at h
  next hphase =>
    obtain rfl := Option.some.inj h
    exact .accepted hphase
  next hphase =>
    obtain rfl := Option.some.inj h
    exact .notAccepted hphase
  next hphase =>
    obtain rfl := Option.some.inj h
    exact .pauseEnded hphase
  next k hphase =>
    obtain rfl := Option.some.inj h
    exact moves_of_proceeded hphase
  next hphase =>
    split_ifs at h with hasked
    obtain rfl := Option.some.inj h
    exact .heededIdle hphase hasked
  next k hphase =>
    split_ifs at h with hasked
    obtain rfl := Option.some.inj h
    exact .heeded hphase hasked
  next =>
    obtain rfl := Option.some.inj h
    exact .asked
  next => cases h

theorem run_append (v : Service) (s : Sequential) (before after : List Occurrence) :
    s.run v (before ++ after) = (s.run v before).bind fun s => s.run v after :=
  List.foldlM_append

def arrivals (occurrences : List Occurrence) : List (String × Connection) :=
  occurrences.filterMap fun
    | .accepted peer c => some (peer, c)
    | _ => none

def done (v : Service) (s : Sequential) : Occurrence → List (ℕ × Step)
  | .proceeded =>
    match s.phase with
    | .serving k => (k.nextSteps v s.calls).map (s.served.length, ·)
    | _ => []
  | _ => []

def history (v : Service) (occurrences : List Occurrence) : List (ℕ × Step) :=
  historyOf (step v) (done v) {} occurrences

/-- Those who have been served were served to the end, but for one whom the listener stopped with. -/
def Stands (s : Sequential) : Prop :=
  match s.phase with
  | .accepting => ∀ k ∈ s.served, k.IsOver
  | .pausing => ∀ k ∈ s.served, k.IsOver
  | .serving k => (∀ k ∈ s.served, k.IsOver) ∧ k.result? = none
  | .stopped (.ok ()) => s.isAsked = true ∧ ((∀ k ∈ s.served, k.IsOver) ∨
      ∃ k rest, s.served = k :: rest ∧ (∀ k ∈ rest, k.IsOver) ∧ k.result? = none)
  | .stopped (.error (.fatal e)) => ∃ k rest fault, s.served = k :: rest ∧
      (∀ k ∈ rest, k.IsOver) ∧ k.result? = some (.error (.backend fault)) ∧ e = .backend fault
  | .stopped (.error _) => False

structure Reached (v : Service) (occurrences : List Occurrence) (s : Sequential) : Prop where
  asked : s.isAsked = true → .asked ∈ occurrences
  attends : Attends v (arrivals occurrences) (history v occurrences) s.clients
  inOrder : (history v occurrences).map Prod.snd = s.clients.flatMap Client.steps
  stands : s.Stands

section

variable {occurrences : List Occurrence}

theorem arrivals_concat (occurrences : List Occurrence) (o : Occurrence) :
    arrivals (occurrences ++ [o]) = arrivals occurrences ++ arrivals [o] :=
  List.filterMap_append

theorem history_concat (h : ({} : Sequential).run v occurrences = some s) (o : Occurrence) :
    history v (occurrences ++ [o]) = history v occurrences ++ s.done v o :=
  historyOf_concat _ h o

theorem clients_of_serving {k : Client} (hphase : s.phase = .serving k) :
    s.clients = s.served.reverse ++ [k] := by
  rw [clients, hphase]

theorem Moves.clients_cases (h : Moves v s o s') :
    (∃ peer c, o = .accepted peer c ∧ s'.clients = s.clients ++ [.arrive peer c]) ∨
      (∃ k, o = .proceeded ∧ s.phase = .serving k ∧
        s'.clients = s.served.reverse ++ [(k.proceed v s.calls).1]) ∨
      (arrivals [o] = [] ∧ s.done v o = [] ∧ s'.clients = s.clients) := by
  cases h with
  | accepted hphase => exact .inl ⟨_, _, rfl, by simp [clients, hphase]⟩
  | wentOn hphase hresult => exact .inr (.inl ⟨_, rfl, hphase, rfl⟩)
  | ended hphase hover => exact .inr (.inl ⟨_, rfl, hphase, by simp [clients]⟩)
  | failed hphase hfault => exact .inr (.inl ⟨_, rfl, hphase, by simp [clients]⟩)
  | notAccepted hphase => exact .inr (.inr ⟨rfl, rfl, by simp [clients, hphase]⟩)
  | pauseEnded hphase => exact .inr (.inr ⟨rfl, rfl, by simp [clients, hphase]⟩)
  | heededIdle hphase hasked => exact .inr (.inr ⟨rfl, rfl, by simp [clients, hphase]⟩)
  | heeded hphase hasked => exact .inr (.inr ⟨rfl, rfl, by simp [clients, hphase]⟩)
  | asked => exact .inr (.inr ⟨rfl, rfl, rfl⟩)

theorem Moves.change (h : Moves v s o s') :
    Change v s.clients (arrivals [o]) (s.done v o) s'.clients := by
  rcases h.clients_cases with
    ⟨peer, c, rfl, hclients⟩ | ⟨k, rfl, hphase, hclients⟩ | ⟨harrivals, hdone, hclients⟩
  · rw [hclients]
    exact .arrived peer c
  · have hlast : s.clients[s.served.length]? = some k := by
      rw [clients_of_serving hphase, ← List.length_reverse, List.getElem?_concat_length]
    have hset : s.clients.set s.served.length (k.proceed v s.calls).1 = s'.clients := by
      rw [hclients, clients_of_serving hphase, ← List.length_reverse,
        List.set_append_right _ _ (Nat.le_refl _), Nat.sub_self]
      rfl
    rw [← hset, done, hphase]
    exact .proceeded hlast s.calls
  · rw [harrivals, hdone, hclients]
    exact .none

theorem inOrder_next (h : (history v occurrences).map Prod.snd = s.clients.flatMap Client.steps)
    (hrun : ({} : Sequential).run v occurrences = some s) (hmoves : Moves v s o s') :
    (history v (occurrences ++ [o])).map Prod.snd = s'.clients.flatMap Client.steps := by
  rw [history_concat hrun, List.map_append, h]
  rcases hmoves.clients_cases with
    ⟨peer, c, rfl, hclients⟩ | ⟨k, rfl, hphase, hclients⟩ | ⟨-, hdone, hclients⟩
  · rw [hclients, List.flatMap_append]
    rfl
  · rw [hclients, clients_of_serving hphase, done, hphase]
    simp [List.map_map, Function.comp_def, Client.proceed_steps]
  · rw [hdone, hclients]
    exact List.append_nil _

theorem Moves.stands (h : Moves v s o s') (hstands : s.Stands) : s'.Stands := by
  unfold Stands at hstands
  cases h with
  | accepted hphase =>
    rw [hphase] at hstands
    exact ⟨hstands, rfl⟩
  | notAccepted hphase =>
    rw [hphase] at hstands
    exact hstands
  | pauseEnded hphase =>
    rw [hphase] at hstands
    exact hstands
  | wentOn hphase hresult =>
    rw [hphase] at hstands
    exact ⟨hstands.1, hresult⟩
  | ended hphase hover =>
    rw [hphase] at hstands
    exact List.forall_mem_cons.mpr ⟨hover, hstands.1⟩
  | failed hphase hfault =>
    rw [hphase] at hstands
    exact ⟨_, _, _, rfl, hstands.1, hfault, rfl⟩
  | heededIdle hphase hasked =>
    rw [hphase] at hstands
    exact ⟨hasked, .inl hstands⟩
  | heeded hphase hasked =>
    rw [hphase] at hstands
    exact ⟨hasked, .inr ⟨_, _, rfl, hstands.1, hstands.2⟩⟩
  | asked =>
    unfold Stands
    split at hstands <;> simp_all

theorem Moves.asked_or (h : Moves v s o s') (hasked : s'.isAsked = true) :
    s.isAsked = true ∨ o = .asked := by
  cases h with
  | asked => exact .inr rfl
  | _ => exact .inl hasked

theorem Reached.next (h : Reached v occurrences s)
    (hrun : ({} : Sequential).run v occurrences = some s) (hmoves : Moves v s o s') :
    Reached v (occurrences ++ [o]) s' where
  asked hasked := by
    rw [List.mem_append, List.mem_singleton]
    rcases hmoves.asked_or hasked with hbefore | rfl
    · exact .inl (h.asked hbefore)
    · exact .inr rfl
  attends := by
    rw [arrivals_concat, history_concat hrun]
    exact h.attends.changed hmoves.change
  inOrder := inOrder_next h.inOrder hrun hmoves
  stands := hmoves.stands h.stands

theorem reached_run (h : ({} : Sequential).run v occurrences = some s) :
    Reached v occurrences s := by
  induction occurrences using List.reverseRecOn generalizing s with
  | nil =>
    obtain rfl := Option.some.inj h
    exact ⟨nofun, .none v, rfl, List.forall_mem_nil _⟩
  | append_singleton before o ih =>
    rw [run_append] at h
    obtain ⟨t, hbefore, hlast⟩ := Option.bind_eq_some_iff.mp h
    have hstep : t.step v o = some s := by simpa [run] using hlast
    exact (ih hbefore).next hbefore (moves_of_step hstep)

end

section

theorem Stands.clients_cases (h : s.Stands) : (∀ k ∈ s.clients, k.IsOver) ∨
    ∃ before k, s.clients = before ++ [k] ∧ (∀ k ∈ before, k.IsOver) ∧
      (k.result? = none ∨ ∃ fault, k.result? = some (.error (.backend fault)) ∧
        s.result? = some (.error (.fatal (.backend fault)))) := by
  unfold Stands at h
  split at h
  next hphase =>
    left
    simpa [clients, hphase] using h
  next hphase =>
    left
    simpa [clients, hphase] using h
  next k hphase =>
    right
    refine ⟨s.served.reverse, k, clients_of_serving hphase, ?_, .inl h.2⟩
    simpa using h.1
  next hphase =>
    obtain ⟨-, hover | ⟨k, rest, hserved, hover, hresult⟩⟩ := h
    · left
      simpa [clients, hphase] using hover
    · right
      refine ⟨rest.reverse, k, by simp [clients, hphase, hserved], ?_, .inl hresult⟩
      simpa using hover
  next e hphase =>
    obtain ⟨k, rest, fault, hserved, hover, hfault, rfl⟩ := h
    right
    refine ⟨rest.reverse, k, by simp [clients, hphase, hserved], ?_, .inr ⟨fault, hfault, ?_⟩⟩
    · simpa using hover
    · rw [result?, hphase]
  next => cases h

theorem Stands.one_active (h : s.Stands) :
    (s.clients.filter fun k => k.result?.isNone).length ≤ 1 := by
  have hnone {ks : List Client} (hover : ∀ k ∈ ks, k.IsOver) :
      ks.filter (fun k => k.result?.isNone) = [] := by
    rw [List.filter_eq_nil_iff]
    intro k hk
    simpa using (hover k hk).result?_ne
  rcases h.clients_cases with hover | ⟨before, k, hclients, hover, -⟩
  · rw [hnone hover]
    exact Nat.zero_le 1
  · rw [hclients, List.filter_append, hnone hover, List.nil_append]
    exact List.length_filter_le _ [k]

theorem Stands.before_last (h : s.Stands) : ∀ k ∈ s.clients.dropLast, k.IsOver := by
  rcases h.clients_cases with hover | ⟨before, k, hclients, hover, -⟩
  · exact fun k hk => hover k (List.dropLast_subset _ hk)
  · rw [hclients, List.dropLast_concat]
    exact hover

theorem Stands.of_accepted (h : s.Stands) {peer : String} {c : Connection}
    (hmoves : Moves v s (.accepted peer c) s') : ∀ k ∈ s.clients, k.IsOver := by
  obtain ⟨hphase⟩ := hmoves
  rw [Stands, hphase] at h
  simpa [clients, hphase] using h

theorem Stands.fault_iff (h : s.Stands) (e : ListenError) : s.result? = some (.error e) ↔
    ∃ k ∈ s.clients, ∃ fault, k.result? = some (.error (.backend fault)) ∧
      e = .fatal (.backend fault) := by
  constructor
  · intro hresult
    have hphase : s.phase = .stopped (.error e) := by
      unfold result? at hresult
      split at hresult
      next hphase => rw [hphase, Option.some.inj hresult]
      next => cases hresult
    rw [Stands, hphase] at h
    cases e with
    | fatal e =>
      obtain ⟨k, rest, fault, hserved, -, hfault, rfl⟩ := h
      exact ⟨k, by simp [clients, hserved], fault, hfault, rfl⟩
    | _ => cases h
  · rintro ⟨k, hk, fault, hfault, rfl⟩
    have hnot : ¬ k.IsOver := by
      rintro ⟨result, hresult, hok⟩
      exact hok fault (Option.some.inj (hresult.symm.trans hfault))
    rcases h.clients_cases with hover | ⟨before, last, hclients, hover, hlast⟩
    · exact absurd (hover k hk) hnot
    · -- Only the last session can have ended with a fault.
      rw [hclients, List.mem_append, List.mem_singleton] at hk
      rcases hk with hk | rfl
      · exact absurd (hover k hk) hnot
      · rcases hlast with hnone | ⟨other, hother, hresult⟩
        · rw [hnone] at hfault
          cases hfault
        · rw [hother] at hfault
          cases hfault
          exact hresult

theorem Stands.asked_of_ok (h : s.Stands) (hresult : s.result? = some (.ok ())) :
    s.isAsked = true := by
  unfold result? at hresult
  split at hresult
  next result hphase =>
    rw [Option.some.inj hresult] at hphase
    rw [Stands, hphase] at h
    exact h.1
  next => cases hresult

theorem Moves.of_proceeded (h : Moves v s .proceeded s') : ∃ before k,
    s'.clients = before ++ [k] ∧ ((k.result? = none ∧ s'.phase = .serving k) ∨
      (k.IsOver ∧ s'.phase = .accepting) ∨
      ∃ fault, k.result? = some (.error (.backend fault)) ∧
        s'.phase = .stopped (.error (.fatal (.backend fault)))) := by
  cases h with
  | wentOn hphase hresult => exact ⟨_, _, rfl, .inl ⟨hresult, rfl⟩⟩
  | ended hphase hover =>
    exact ⟨s.served.reverse, _, by simp [clients], .inr (.inl ⟨hover, rfl⟩)⟩
  | failed hphase hfault =>
    exact ⟨s.served.reverse, _, by simp [clients], .inr (.inr ⟨_, hfault, rfl⟩)⟩

theorem Moves.of_stopped (h : Moves v s o s') (hstopped : s.result? ≠ none) :
    o = .asked ∧ s' = { s with isAsked := true } := by
  cases h with
  | asked => exact ⟨rfl, rfl⟩
  | _ => simp_all [result?]

theorem exists_moves_proceeded (v : Service) {k : Client} (hphase : s.phase = .serving k) :
    ∃ s', s.step v .proceeded = some s' ∧ Moves v s .proceeded s' := by
  refine ⟨_, ?_, moves_of_proceeded hphase⟩
  simp only [step, hphase]

theorem run_cons (h : s.step v o = some s') (rest : List Occurrence) :
    s.run v (o :: rest) = s'.run v rest := by
  rw [run, List.foldlM_cons, h]
  rfl

theorem exists_proceeded (v : Service) (earlier : List Call) (c : Connection) (session : Session) :
    ∀ (s : Sequential) (k : Client), s.phase = .serving k → s.calls = earlier →
      k.connection = c → k.session = session → k.result? = none →
      ∃ n s', s.run v (List.replicate n .proceeded) = some s' ∧ (s'.phase = .accepting ∨
        ∃ fault, s'.result? = some (.error (.fatal (.backend fault)))) := by
  induction earlier, c, session using Session.run.induct v with
  | case1 earlier c session result hresult =>
    rintro s k - - - rfl hrunning
    rw [Client.result?, hresult] at hrunning
    cases hrunning
  | case2 earlier c session hresult _ _ _ _ ih =>
    rintro s k hphase rfl rfl rfl -
    obtain ⟨s', hstep, hmoves⟩ := exists_moves_proceeded v hphase
    cases hmoves with
    | wentOn hsame hrunning =>
      obtain rfl := Phase.serving.inj (hphase.symm.trans hsame)
      let next : Sequential :=
        { s with
          phase := .serving (k.proceed v s.calls).1
          calls := (k.proceed v s.calls).2 }
      obtain ⟨n, last, hrun, hlast⟩ := ih next _ rfl rfl rfl rfl hrunning
      exact ⟨n + 1, last, (run_cons hstep _).trans hrun, hlast⟩
    | ended hsame hover => exact ⟨1, _, run_cons hstep [], .inl rfl⟩
    | failed hsame hfault => exact ⟨1, _, run_cons hstep [], .inr ⟨_, rfl⟩⟩

theorem Stands.exists_accepting (h : s.Stands) (v : Service) (hrunning : s.result? = none) :
    ∃ way s', (∀ o ∈ way, o = .pauseEnded ∨ o = .proceeded) ∧ s.run v way = some s' ∧
      (s'.phase = .accepting ∨ ∃ fault, s'.result? = some (.error (.fatal (.backend fault)))) := by
  cases hphase : s.phase with
  | accepting => exact ⟨[], s, List.forall_mem_nil _, rfl, .inl hphase⟩
  | pausing =>
    have hstep : s.step v .pauseEnded = some { s with phase := .accepting } := by
      simp only [step, hphase]
    exact ⟨[.pauseEnded], _, List.forall_mem_singleton.mpr (.inl rfl), run_cons hstep [], .inl rfl⟩
  | serving k =>
    rw [Stands, hphase] at h
    obtain ⟨n, s', hrun, hlast⟩ := exists_proceeded v _ _ _ s k hphase rfl rfl rfl h.2
    refine ⟨_, s', ?_, hrun, hlast⟩
    exact fun o ho => .inr (List.eq_of_mem_replicate ho)
  | stopped result => simp [result?, hphase] at hrunning

end

structure Succession (v : Service) (occurrences : List Occurrence) (s : Sequential) : Prop where
  arrived : List.Forall₂ (fun a k => Client.Visits v a.1 a.2 k) (arrivals occurrences) s.clients
  inOrder : (history v occurrences).map Prod.snd = s.clients.flatMap Client.steps
  oneActive : (s.clients.filter fun k => k.result?.isNone).length ≤ 1
  beforeLast : ∀ k ∈ s.clients.dropLast, k.IsOver
  beforeNext : ∀ peer c s', s.step v (.accepted peer c) = some s' → ∀ k ∈ s.clients, k.IsOver
  afterStep : ∀ s', s.step v .proceeded = some s' → ∃ before k, s'.clients = before ++ [k] ∧
    ((k.result? = none ∧ s'.phase = .serving k) ∨ (k.IsOver ∧ s'.phase = .accepting) ∨
      ∃ fault, k.result? = some (.error (.backend fault)) ∧
        s'.phase = .stopped (.error (.fatal (.backend fault))))
  fault : ∀ e, s.result? = some (.error e) ↔ ∃ k ∈ s.clients, ∃ fault,
    k.result? = some (.error (.backend fault)) ∧ e = .fatal (.backend fault)
  asked : s.result? = some (.ok ()) → .asked ∈ occurrences
  stopped : s.result? ≠ none → ∀ o s', s.step v o = some s' →
    o = .asked ∧ s' = { s with isAsked := true }
  goesOn : s.result? = none → ∃ way s', (∀ o ∈ way, o = .pauseEnded ∨ o = .proceeded) ∧
    s.run v way = some s' ∧
      (s'.phase = .accepting ∨ ∃ fault, s'.result? = some (.error (.fatal (.backend fault))))

theorem run_succession (v : Service) {occurrences : List Occurrence}
    (h : ({} : Sequential).run v occurrences = some s) : Succession v occurrences s := by
  have hreached := reached_run h
  have hstands := hreached.stands
  constructor
  · exact hreached.attends.visits
  · exact hreached.inOrder
  · exact hstands.one_active
  · exact hstands.before_last
  · intro peer c s' hstep
    exact hstands.of_accepted (moves_of_step hstep)
  · intro s' hstep
    exact (moves_of_step hstep).of_proceeded
  · exact hstands.fault_iff
  · intro hresult
    exact hreached.asked (hstands.asked_of_ok hresult)
  · intro hstopped o s' hstep
    exact (moves_of_step hstep).of_stopped hstopped
  · exact hstands.exists_accepting v

def moody : Service where
  backend :=
    { kind := .onDevice
      description := "moody"
      answer := fun _ c =>
        { outcome := if c.query = "b" then .error (.model "gone") else .ok (.text "yes") } }
  dispatch := {}

def threeVisits : List Occurrence :=
  .accepted "first" { arrivals := [.broken "reset"] } :: List.replicate 2 .proceeded ++
    .accepted "second" oneRequest ::
      List.replicate 6 .proceeded ++
    [.notAccepted "too many open files", .pauseEnded, .asked] ++
    .accepted "third" { arrivals := [.bytes (Utf8.encode "AI_REQ: b\n".toList)] } ::
      List.replicate 3 .proceeded

theorem run_threeVisits : ∃ s, ({} : Sequential).run moody threeVisits = some s ∧
    s.clients.map Client.peer = ["first", "second", "third"] ∧
    s.result? = some (.error (.fatal (.backend (.model "gone")))) ∧
    Succession moody threeVisits s := by
  have hview : (({} : Sequential).run moody threeVisits).map
      (fun s => (s.clients.map Client.peer, s.clients.filterMap Client.fatalError?)) =
        some (["first", "second", "third"], [.backend (.model "gone")]) := by
    decide +kernel
  obtain ⟨s, hrun, hs⟩ := Option.map_eq_some_iff.mp hview
  obtain ⟨hpeers, hfaults⟩ := Prod.mk.inj hs
  have hsuccession := run_succession moody hrun
  have hmem : .backend (.model "gone") ∈ s.clients.filterMap Client.fatalError? := by simp [hfaults]
  obtain ⟨k, hk, hfatal⟩ := List.mem_filterMap.mp hmem
  obtain ⟨fault, hfault, hended⟩ := Client.fatalError?_eq_some_iff.mp hfatal
  cases hfault
  exact ⟨s, hrun, hpeers, (hsuccession.fault _).mpr ⟨k, hk, _, hended, rfl⟩, hsuccession⟩

end Sequential

end PromptRelay
