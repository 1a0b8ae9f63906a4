import PromptRelay.Proofs.Session.States

namespace PromptRelay

def eventsOf (steps : List Step) : List Event :=
  steps.filterMap fun
    | .event e => some e
    | _ => none

def queriesOf (events : List Event) : List String :=
  events.filterMap fun
    | .request _ query => some query
    | _ => none

inductive Dealings (peer : String) : List Event → Prop
  | nil : Dealings peer []
  | discarded {events : List Event} (h : Dealings peer events) :
      Dealings peer (events ++ [.discarded peer])
  | replied {events : List Event} (h : Dealings peer events) (query line : String)
      (elapsed : ℕ) : Dealings peer (events ++ [.request peer query, .reply peer line elapsed])
  | failed {events : List Event} (h : Dealings peer events) (query cause : String)
      (elapsed : ℕ) : Dealings peer (events ++ [.request peer query, .failure peer cause elapsed])

def EndsWith (peer : String) (events : List Event) : Except SessionError Summary → Prop
  | .ok summary => events = [.sessionClosed peer summary]
  | .error (.io _) => events = []
  | .error (.backend fault) =>
    ∃ query, events = [.request peer query, .fault peer fault.message]

def Delivers (line : Line) (steps : List Step) : Prop :=
  ∃ (writes : List (List UInt8)) (after : List Step), steps = writes.map .write ++ after ∧
    (writes.flatten = line.bytes ∧ after.head? = some .flush ∨
      writes.flatten <+: line.bytes ∧ after = [])

/-- The last event records a reply with a line, of which `left` is what has not been written. -/
def Offers (peer : String) (line : Line) (left : List UInt8) (steps : List Step) : Prop :=
  ∃ (before : List Step) (reply : Reply) (elapsed : ℕ) (writes : List (List UInt8)),
    steps = before ++ .event (Session.replyEvent peer line elapsed reply) :: writes.map .write ∧
      writes.flatten ++ left = line.bytes

def DeliversReplies : List Step → Prop
  | [] => True
  | .event (.reply _ line _) :: steps => Delivers ⟨line⟩ steps ∧ DeliversReplies steps
  | _ :: steps => DeliversReplies steps

section

variable {v : Service} {peer : String} {calls : List Call} {steps : List Step}

theorem eventsOf_append (xs ys : List Step) : eventsOf (xs ++ ys) = eventsOf xs ++ eventsOf ys :=
  List.filterMap_append

theorem eventsOf_writes (writes : List (List UInt8)) : eventsOf (writes.map .write) = [] := by
  simp [eventsOf, List.filterMap_map]

theorem eventsOf_closingSteps (summary : Summary) (bytes : Option ℕ) (character : Bool) :
    eventsOf (closingSteps peer summary bytes character) = [.sessionClosed peer summary] := by
  cases bytes <;> cases character <;> rfl

theorem Dealings.replySteps {events : List Event} (h : Dealings peer events) (v : Service)
    (earlier : List Call) (call : Call) (reply : Reply) :
    Dealings peer (events ++ eventsOf (v.replySteps peer earlier call reply)) := by
  cases reply with
  | text raw => exact h.replied _ _ _
  | failure cause => exact h.failed _ _ _

theorem queriesOf_append (xs ys : List Event) :
    queriesOf (xs ++ ys) = queriesOf xs ++ queriesOf ys :=
  List.filterMap_append

theorem queriesOf_replySteps (v : Service) (peer : String) (earlier : List Call) (call : Call)
    (reply : Reply) : queriesOf (eventsOf (v.replySteps peer earlier call reply)) = [call.query] := by
  cases reply <;> rfl

def Tells (peer : String) (calls : List Call) (events : List Event) : Prop :=
  ∃ dealings, Dealings peer dealings ∧ events = .sessionOpened peer :: dealings ∧
    queriesOf events = calls.reverse.map Call.query

theorem Tells.replySteps {events : List Event} (h : Tells peer calls events) (v : Service)
    (call : Call) (reply : Reply) :
    Tells peer (call :: calls) (events ++ eventsOf (v.replySteps peer calls call reply)) := by
  obtain ⟨dealings, hdealings, rfl, hqueries⟩ := h
  refine ⟨_, hdealings.replySteps v calls call reply, rfl, ?_⟩
  rw [queriesOf_append, queriesOf_replySteps, hqueries, List.reverse_cons, List.map_append]
  rfl

theorem Chronicle.tells (h : Chronicle v peer calls steps) : Tells peer calls (eventsOf steps) := by
  induction h with
  | opened => exact ⟨[], .nil, rfl, rfl⟩
  | read h hsize ih =>
    rw [eventsOf_append]
    simpa [eventsOf] using ih
  | echoed h text ih =>
    rw [eventsOf_append]
    simpa [eventsOf] using ih
  | discarded h ih =>
    obtain ⟨dealings, hdealings, hevents, hqueries⟩ := ih
    refine ⟨_, hdealings.discarded, ?_, ?_⟩
    · rw [eventsOf_append, hevents]
      rfl
    · rw [eventsOf_append, queriesOf_append, hqueries]
      exact List.append_nil _
  | @replied earlier steps call reply writes h hreply hwrites ih =>
    have hevents := ih.replySteps v call reply
    rw [eventsOf_append, eventsOf_append, eventsOf_append, eventsOf_writes]
    simpa [eventsOf] using hevents

theorem Replying.tells {line : Line} {left : List UInt8}
    (h : Replying v peer line left calls steps) : Tells peer calls (eventsOf steps) := by
  obtain @⟨earlier, steps, call, reply, writes, h, hreply, hline, hwrites⟩ := h
  have hevents := h.tells.replySteps v call reply
  rw [eventsOf_append, eventsOf_append, eventsOf_writes, List.append_nil]
  exact hevents

theorem transcript_of_chronicled {result : Except SessionError Summary}
    (h : (Phase.ended result).Chronicled v peer calls steps) :
    (∃ dealings ending, Dealings peer dealings ∧ EndsWith peer ending result ∧
      eventsOf steps = .sessionOpened peer :: (dealings ++ ending)) ∧
      queriesOf (eventsOf steps) = calls.reverse.map Call.query := by
  match result, h with
  | .ok summary, ⟨before, bytes, character, hbefore, hsteps⟩ =>
    obtain ⟨dealings, hdealings, hevents, hqueries⟩ := hbefore.tells
    rw [hsteps, eventsOf_append, queriesOf_append, hqueries, hevents, eventsOf_closingSteps]
    exact ⟨⟨dealings, _, hdealings, rfl, rfl⟩, List.append_nil _⟩
  | .error (.io cause), h =>
    have htells : Tells peer calls (eventsOf steps) := by
      rcases h with h | ⟨line, left, h⟩
      · exact h.tells
      · exact h.tells
    obtain ⟨dealings, hdealings, hevents, hqueries⟩ := htells
    exact ⟨⟨dealings, [], hdealings, rfl, by rw [hevents, List.append_nil]⟩, hqueries⟩
  | .error (.backend fault), h =>
    obtain @⟨earlier, steps, call, hbefore, hreply⟩ := h
    obtain ⟨dealings, hdealings, hevents, hqueries⟩ := hbefore.tells
    rw [eventsOf_append, queriesOf_append, hqueries, hevents, List.reverse_cons, List.map_append]
    exact ⟨⟨dealings, _, hdealings, ⟨call.query, rfl⟩, rfl⟩, rfl⟩

theorem deliversReplies_writes {after : List Step} (h : DeliversReplies after)
    (writes : List (List UInt8)) : DeliversReplies (writes.map .write ++ after) := by
  induction writes with
  | nil => exact h
  | cons bs writes ih => exact ih

theorem deliversReplies_replySteps {earlier : List Call} {call : Call} {reply : Reply}
    {after : List Step} (hline : Delivers reply.line after) (h : DeliversReplies after) :
    DeliversReplies (v.replySteps peer earlier call reply ++ after) := by
  cases reply with
  | text raw => exact ⟨hline, h⟩
  | failure cause => exact h

theorem deliversReplies_closingSteps (summary : Summary) (bytes : Option ℕ) (character : Bool) :
    DeliversReplies (closingSteps peer summary bytes character) := by
  cases bytes <;> cases character <;> trivial

theorem Chronicle.deliversReplies (h : Chronicle v peer calls steps) {rest : List Step}
    (hrest : DeliversReplies rest) : DeliversReplies (steps ++ rest) := by
  -- `rest` is general: the steps that deliver a reply are among those after it.
  induction h generalizing rest with
  | opened => exact hrest
  | read h hsize ih => rw [List.append_assoc]; exact ih hrest
  | echoed h text ih => rw [List.append_assoc]; exact ih hrest
  | discarded h ih => rw [List.append_assoc]; exact ih hrest
  | @replied earlier steps call reply writes h hreply hwrites ih =>
    rw [List.append_assoc, List.append_assoc, List.append_assoc]
    apply ih
    apply deliversReplies_replySteps
    · exact ⟨writes, _, rfl, .inl ⟨hwrites, rfl⟩⟩
    · have hnext : DeliversReplies
          ([.flush, .state .dispatching .accumulating] ++ rest) := hrest
      exact deliversReplies_writes hnext writes

theorem Replying.deliversReplies {line : Line} {left : List UInt8}
    (h : Replying v peer line left calls steps) : DeliversReplies steps := by
  obtain @⟨earlier, steps, call, reply, writes, h, hreply, hline, hwrites⟩ := h
  apply h.deliversReplies
  apply deliversReplies_replySteps
  · refine ⟨writes, [], (List.append_nil _).symm, .inr ⟨⟨left, ?_⟩, rfl⟩⟩
    rw [hwrites, hline]
  · have hwritten : DeliversReplies ([] : List Step) := trivial
    simpa using deliversReplies_writes hwritten writes

theorem Replying.offers {line : Line} {left : List UInt8}
    (h : Replying v peer line left calls steps) : Offers peer line left steps := by
  obtain @⟨earlier, steps, call, reply, writes, h, hreply, hline, hwrites⟩ := h
  subst hline
  refine ⟨steps ++ (takeUp peer call.query ++ [.call call]), reply, (v.ask earlier call).2, writes,
    ?_, hwrites⟩
  rw [Service.replySteps, List.append_assoc, List.append_assoc, List.append_assoc]
  rfl

theorem deliversReplies_of_chronicled {result : Except SessionError Summary}
    (h : (Phase.ended result).Chronicled v peer calls steps) : DeliversReplies steps := by
  match result, h with
  | .ok summary, ⟨before, bytes, character, hbefore, hsteps⟩ =>
    subst hsteps
    exact hbefore.deliversReplies (deliversReplies_closingSteps summary bytes character)
  | .error (.io cause), .inl h =>
    have hnone : DeliversReplies ([] : List Step) := trivial
    simpa using h.deliversReplies hnone
  | .error (.io cause), .inr ⟨line, left, h⟩ => exact h.deliversReplies
  | .error (.backend fault), h =>
    obtain ⟨hbefore, hreply⟩ := h
    exact hbefore.deliversReplies trivial

end

/-- A session goes through its states, and does in each of them only what belongs there, a thing
that fails included. It closes at the end of its stream and nowhere else. Its transcript tells of
all its calls, and of each reply the line that is then written. -/
theorem serve_lifecycle (v : Service) (peer : String) (c : Connection) :
    let (steps, result) := v.serve peer c
    (∀ n, let m := v.moment peer c n
      m.steps <+: steps ∧
        (∃ state ∈ m.session.phase.states,
          SessionState.accumulating.after? m.steps = some state) ∧
        ∀ line left rest, m.session.phase = .writing line left rest →
          Offers peer line left m.steps) ∧
      (∃ state ∈ (Phase.ended result).states,
        SessionState.accumulating.after? steps = some state) ∧
      ClosesAt steps result ∧
      (∃ dealings ending, Dealings peer dealings ∧ EndsWith peer ending result ∧
        eventsOf steps = .sessionOpened peer :: (dealings ++ ending)) ∧
      queriesOf (eventsOf steps) = (Session.callsAfter [] steps).reverse.map Call.query ∧
      DeliversReplies steps := by
  have hrun := chronicled_serve v peer c
  have hmoments := v.moment_prefix_serve peer c
  generalize v.serve peer c = run at hrun hmoments ⊢
  obtain ⟨steps, result⟩ := run
  obtain ⟨hevents, hqueries⟩ := transcript_of_chronicled hrun
  refine ⟨?_, hrun.after?, closesAt_of_chronicled hrun, hevents, hqueries,
    deliversReplies_of_chronicled hrun⟩
  intro n
  have hmoment := recorded_moment v peer c n
  refine ⟨hmoments n, hmoment.phase.after?, ?_⟩
  intro line left rest hp
  have hreplying := hmoment.inPhase hp
  rw [hmoment.peer_eq] at hreplying
  exact Replying.offers hreplying

end PromptRelay
