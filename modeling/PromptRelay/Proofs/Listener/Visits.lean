import PromptRelay.Listener
import PromptRelay.Proofs.Session.Agreement
import PromptRelay.Proofs.Session.Lifecycle
import PromptRelay.Proofs.Session.WireLines

/-!
Visits of clients at a listener. The session of a client does what the session of its connection
does alone, if what a call comes to does not depend on the calls before it.
-/

namespace PromptRelay

/-- What a call comes to within its time limit does not depend on the calls before it. -/
def Service.IsSteady (v : Service) : Prop :=
  ∀ earlier call, (v.ask earlier call).1 = (v.ask [] call).1

def Service.IsPunctual (v : Service) : Prop :=
  ∀ earlier call, (v.ask earlier call).2 = (v.ask [] call).2

def Event.untimed : Event → Event
  | .reply peer line _ => .reply peer line 0
  | .failure peer cause _ => .failure peer cause 0
  | e => e

def Step.untimed : Step → Step
  | .event e => .event e.untimed
  | x => x

theorem eventsOf_untimed (steps : List Step) :
    eventsOf (steps.map Step.untimed) = (eventsOf steps).map Event.untimed := by
  induction steps with
  | nil => rfl
  | cons x steps ih =>
    cases x with
    | event e => exact congrArg (e.untimed :: ·) ih
    | _ => exact ih

theorem written_untimed (steps : List Step) : written (steps.map Step.untimed) = written steps := by
  induction steps with
  | nil => rfl
  | cons x steps ih =>
    cases x with
    | write bs => exact congrArg (bs ++ ·) ih
    | _ => exact ih

theorem callsAfter_untimed (earlier : List Call) (steps : List Step) :
    Session.callsAfter earlier (steps.map Step.untimed) = Session.callsAfter earlier steps := by
  unfold Session.callsAfter
  rw [List.filterMap_map]
  congr 3
  funext x
  cases x <;> rfl

theorem written_prefix {xs ys : List Step} (h : xs <+: ys) : written xs <+: written ys := by
  obtain ⟨rest, rfl⟩ := h
  rw [written_append]
  exact List.prefix_append _ _

theorem callsAfter_prefix {xs ys : List Step} (h : xs <+: ys) :
    (Session.callsAfter [] xs).reverse <+: (Session.callsAfter [] ys).reverse := by
  obtain ⟨rest, rfl⟩ := h
  obtain ⟨later, hlater⟩ := Session.exists_callsAfter (Session.callsAfter [] xs) rest
  rw [Session.callsAfter_append, hlater, List.reverse_append]
  exact List.prefix_append _ _

namespace Session

variable {v : Service} (earlier later : List Call) (c : Connection) (s : Session)

theorem step_untimed (h : v.IsSteady) :
    (s.step v earlier c).1.map Step.untimed = (s.step v later c).1.map Step.untimed ∧
      (s.step v earlier c).2 = (s.step v later c).2 := by
  cases hp : s.phase with
  | calling r rest =>
    have hask : (v.ask earlier (v.dispatch.call r)).1 = (v.ask later (v.dispatch.call r)).1 :=
      (h earlier _).trans (h later _).symm
    simp only [step, signal, resume, hp, answer, hask]
    cases replyOf v.backend.kind (v.ask later (v.dispatch.call r)).1 with
    | error fault => exact ⟨rfl, rfl⟩
    | ok reply => cases reply <;> exact ⟨rfl, rfl⟩
  | _ => simp only [step, signal, hp, and_self]

theorem step_of_isPunctual (h : v.IsSteady) (htimes : v.IsPunctual) :
    s.step v earlier c = s.step v later c := by
  have hask (call : Call) : v.ask earlier call = v.ask later call :=
    Prod.ext ((h earlier call).trans (h later call).symm)
      ((htimes earlier call).trans (htimes later call).symm)
  simp only [step, signal, hask]

theorem peer_of_takingSteps (peer : String) (frames : List Frame) :
    ∀ e ∈ eventsOf (takingSteps peer frames), e.peer = peer := by
  induction frames with
  | nil => exact List.forall_mem_nil _
  | cons frame rest ih =>
    cases frame with
    | request r => exact List.forall_mem_singleton.mpr rfl
    | discarded => exact List.forall_mem_cons.mpr ⟨rfl, ih⟩

theorem Transition.peers {v : Service} {earlier : List Call} {c left : Connection}
    {s t : Session} {steps : List Step} (h : Transition v earlier c s steps left t) :
    t.peer = s.peer ∧ ∀ e ∈ eventsOf steps, e.peer = s.peer := by
  cases h with
  | opened hp => exact ⟨rfl, List.forall_mem_singleton.mpr rfl⟩
  | closed hp hread =>
    refine ⟨rfl, ?_⟩
    intro e he
    unfold close at he
    split_ifs at he <;> simp_all [eventsOf, Event.peer]
  | @received bytes hp hne hread =>
    refine ⟨s.receive_peer bytes, ?_⟩
    rw [receive_steps]
    have htaken := peer_of_takingSteps s.peer (s.framer.push (s.decoder.feed bytes).1).1
    split_ifs <;> exact htaken
  | @answered r rest reply hp hreply =>
    refine ⟨rfl, ?_⟩
    cases reply <;> exact List.forall_mem_singleton.mpr rfl
  | refused hp hreply => exact ⟨rfl, List.forall_mem_singleton.mpr rfl⟩
  | flushed hp hflush =>
    refine ⟨s.sent_peer _ _, ?_⟩
    rw [sent_steps]
    exact peer_of_takingSteps s.peer _
  | _ => exact ⟨rfl, List.forall_mem_nil _⟩

end Session

namespace Client

theorem written_eq (k : Client) : k.written = PromptRelay.written k.steps := by
  unfold written
  induction k.steps with
  | nil => rfl
  | cons x steps ih =>
    cases x with
    | write bs => exact congrArg (bs ++ ·) ih
    | _ => exact ih

def nextSteps (v : Service) (calls : List Call) (k : Client) : List Step :=
  (k.session.step v calls k.connection).1

theorem proceed_steps (v : Service) (calls : List Call) (k : Client) :
    (k.proceed v calls).1.steps = k.steps ++ k.nextSteps v calls :=
  rfl

inductive Visits (v : Service) (peer : String) (c : Connection) : Client → Prop
  | arrived : Visits v peer c (.arrive peer c)
  | proceeded {k : Client} (h : Visits v peer c k) (calls : List Call) :
      Visits v peer c (k.proceed v calls).1

def begunCalls (v : Service) (k : Client) : List Call :=
  (Session.callsAfter [] k.steps).reverse ++
    match k.session.phase with
    | .calling r _ => [v.dispatch.call r]
    | _ => []

variable {v : Service} {peer : String} {c : Connection} {k : Client}

theorem Visits.peers (h : Visits v peer c k) :
    k.peer = peer ∧ k.session.peer = peer ∧ ∀ e ∈ eventsOf k.steps, e.peer = peer := by
  induction h with
  | arrived => exact ⟨rfl, rfl, List.forall_mem_nil _⟩
  | @proceeded k h calls ih =>
    obtain ⟨hpeer, hsession, hevents⟩ := ih
    obtain ⟨hkept, hnext⟩ := (k.session.step_transition v calls k.connection).peers
    refine ⟨hpeer, hkept.trans hsession, ?_⟩
    rw [proceed_steps, eventsOf_append, List.forall_mem_append, ← hsession]
    rw [← hsession] at hevents
    exact ⟨hevents, hnext⟩

structure Matches (v : Service) (k : Client) (m : Moment) : Prop where
  session : k.session = m.session
  connection : k.connection = m.connection
  untimed : k.steps.map Step.untimed = m.steps.map Step.untimed
  steps : v.IsPunctual → k.steps = m.steps

theorem Matches.next (hsteady : v.IsSteady) {m : Moment} (h : k.Matches v m) (calls : List Call) :
    (k.proceed v calls).1.Matches v (m.next v) := by
  obtain ⟨hsession, hconnection, huntimed, hsteps⟩ := h
  obtain ⟨hnext, hafter⟩ := k.session.step_untimed calls m.calls k.connection hsteady
  rw [hsession, hconnection] at hnext hafter
  constructor
  · simp only [proceed, Moment.next, hsession, hconnection, hafter]
  · simp only [proceed, Moment.next, hsession, hconnection, hafter]
  · simp only [proceed, Moment.next, hsession, hconnection, List.map_append, huntimed, hnext]
  · intro htimes
    have hsame := m.session.step_of_isPunctual calls m.calls m.connection hsteady htimes
    simp only [proceed, Moment.next, hsession, hconnection, hsteps htimes, hsame]

theorem Visits.exists_moment (hsteady : v.IsSteady) (h : Visits v peer c k) :
    ∃ n, k.Matches v (v.moment peer c n) := by
  induction h with
  | arrived => exact ⟨0, rfl, rfl, rfl, fun _ => rfl⟩
  | proceeded h calls ih =>
    obtain ⟨n, hmatches⟩ := ih
    refine ⟨n + 1, ?_⟩
    rw [v.moment_succ]
    exact hmatches.next hsteady calls

end Client

/-- What others see of a session is what they see of the session that its connection has alone: all
of it if the session has ended, and a prefix of it otherwise. Times agree too if calls always take
as long. -/
structure ServedAsAlone (v : Service) (peer : String) (c : Connection) (k : Client) : Prop where
  peer_eq : k.peer = peer
  bytes : k.written <+: written (v.serve peer c).1
  calls : k.begunCalls v <+: (Session.callsAfter [] (v.serve peer c).1).reverse
  events : (eventsOf k.steps).map Event.untimed <+:
    (eventsOf (v.serve peer c).1).map Event.untimed
  timed : v.IsPunctual → k.steps <+: (v.serve peer c).1
  ended : ∀ result, k.result? = some result → result = (v.serve peer c).2 ∧
    k.written = written (v.serve peer c).1 ∧
    k.begunCalls v = (Session.callsAfter [] (v.serve peer c).1).reverse ∧
    (eventsOf k.steps).map Event.untimed = (eventsOf (v.serve peer c).1).map Event.untimed ∧
    (v.IsPunctual → k.steps = (v.serve peer c).1)

section

variable {v : Service} {peer : String} {c : Connection} {k : Client}

theorem begunCalls_prefix_of_matches {n : ℕ} (h : k.Matches v (v.moment peer c n)) :
    k.begunCalls v <+: (Session.callsAfter [] (v.serve peer c).1).reverse := by
  have hmade : Session.callsAfter [] k.steps = (v.moment peer c n).calls := by
    rw [← callsAfter_untimed, h.untimed, callsAfter_untimed]
    rfl
  rw [Client.begunCalls, hmade, h.session]
  cases hp : (v.moment peer c n).session.phase with
  | calling r rest =>
    -- The call is made with the step that comes next.
    have hcalled : (v.moment peer c (n + 1)).calls =
        v.dispatch.call r :: (v.moment peer c n).calls := by
      rw [v.moment_succ, Moment.next_calls, Session.callsAfter_step_of_calling _ hp]
    rw [← List.reverse_cons, ← hcalled]
    exact callsAfter_prefix (v.moment_prefix_serve peer c (n + 1))
  | _ =>
    simp only [List.append_nil]
    exact callsAfter_prefix (v.moment_prefix_serve peer c n)

theorem serve_of_matches {n : ℕ} (h : k.Matches v (v.moment peer c n))
    {result : Except SessionError Summary} (hresult : k.result? = some result) :
    v.serve peer c = ((v.moment peer c n).steps, result) := by
  apply Service.serve_of_ended
  rw [← h.session]
  exact Session.result?_eq_some_iff.mp hresult

theorem servedAsAlone_of_visits (hsteady : v.IsSteady) (h : k.Visits v peer c) :
    ServedAsAlone v peer c k := by
  obtain ⟨n, hmatches⟩ := h.exists_moment hsteady
  have hbefore := v.moment_prefix_serve peer c n
  have hwritten : k.written = written (v.moment peer c n).steps := by
    rw [k.written_eq, ← written_untimed, hmatches.untimed, written_untimed]
  have hevents : (eventsOf k.steps).map Event.untimed =
      (eventsOf (v.moment peer c n).steps).map Event.untimed := by
    rw [← eventsOf_untimed, hmatches.untimed, eventsOf_untimed]
  constructor
  · exact h.peers.1
  · rw [hwritten]
    exact written_prefix hbefore
  · exact begunCalls_prefix_of_matches hmatches
  · rw [hevents]
    exact (hbefore.filterMap _).map _
  · intro htimes
    rw [hmatches.steps htimes]
    exact hbefore
  · intro result hresult
    have hserve := serve_of_matches hmatches hresult
    have hphase : k.session.phase = .ended result := Session.result?_eq_some_iff.mp hresult
    simp only [hserve]
    refine ⟨trivial, hwritten, ?_, hevents, hmatches.steps⟩
    rw [Client.begunCalls, hphase, List.append_nil, ← callsAfter_untimed, hmatches.untimed,
      callsAfter_untimed]

end

end PromptRelay
