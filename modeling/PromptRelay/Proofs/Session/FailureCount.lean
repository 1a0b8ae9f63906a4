import PromptRelay.Proofs.Connection.Stream
import PromptRelay.Proofs.Line.FailureMark
import PromptRelay.Proofs.Session.Lifecycle

namespace PromptRelay

/-- Whether a reply is an answer whose line begins as those of failures do. -/
def Reply.posesAsFailure : Reply → Bool
  | .text raw => Line.failureMark.toList.isPrefixOf (normalize raw.toList)
  | .failure _ => false

def Reply.showsFailure (reply : Reply) : Bool :=
  reply.line.isFailure

theorem Reply.showsFailure_eq (reply : Reply) :
    reply.showsFailure = (reply.isFailure || reply.posesAsFailure) := by
  cases reply with
  | text raw => simp [showsFailure, line, Line.isFailure, Line.ofReply, isFailure, posesAsFailure]
  | failure cause => exact Line.ofFailure_isFailure cause

theorem Reply.count_showsFailure (reply : Reply) :
    (if reply.showsFailure then 1 else 0) =
      (if reply.isFailure then 1 else 0) + if reply.posesAsFailure then 1 else 0 := by
  rw [showsFailure_eq]
  cases reply with
  | text raw => simp [isFailure]
  | failure cause => simp [posesAsFailure]

def Service.countReplies (v : Service) (kind : Reply → Bool) : List Call → ℕ
  | [] => 0
  | call :: earlier =>
    v.countReplies kind earlier +
      match v.reply earlier call with
      | .ok reply => if kind reply then 1 else 0
      | .error _ => 0

def Event.isFailure : Event → Bool
  | .failure _ _ _ => true
  | _ => false

section Replies

variable {v : Service} {earlier : List Call} {call : Call}

theorem countReplies_of_ok {reply : Reply} (h : v.reply earlier call = .ok reply)
    (kind : Reply → Bool) : v.countReplies kind (call :: earlier) =
      v.countReplies kind earlier + if kind reply then 1 else 0 := by
  rw [Service.countReplies, h]

theorem countReplies_of_error {fault : Fault} (h : v.reply earlier call = .error fault)
    (kind : Reply → Bool) : v.countReplies kind (call :: earlier) = v.countReplies kind earlier := by
  rw [Service.countReplies, h]
  rfl

theorem countReplies_showsFailure (v : Service) (calls : List Call) :
    v.countReplies Reply.showsFailure calls =
      v.countReplies Reply.isFailure calls + v.countReplies Reply.posesAsFailure calls := by
  induction calls with
  | nil => rfl
  | cons call earlier ih =>
    cases hreply : v.reply earlier call with
    | error fault => simp only [countReplies_of_error hreply, ih]
    | ok reply =>
      simp only [countReplies_of_ok hreply]
      rw [ih, reply.count_showsFailure]
      omega

theorem countReplies_eq_zero_iff {kind : Reply → Bool} {calls : List Call} :
    v.countReplies kind calls = 0 ↔ ∀ later call earlier reply, calls = later ++ call :: earlier →
      v.reply earlier call = .ok reply → kind reply = false := by
  induction calls with
  | nil => simp [Service.countReplies]
  | cons last calls ih =>
    constructor
    · intro hzero later call earlier reply hcalls hreply
      cases later with
      | nil =>
        obtain ⟨rfl, rfl⟩ := List.cons.inj hcalls
        rw [countReplies_of_ok hreply] at hzero
        cases hkind : kind reply with
        | false => rfl
        | true => simp [hkind] at hzero
      | cons first later =>
        have hearlier : v.countReplies kind calls = 0 := by
          rw [Service.countReplies] at hzero
          omega
        exact ih.mp hearlier later call earlier reply (List.cons.inj hcalls).2 hreply
    · intro h
      have hearlier : v.countReplies kind calls = 0 :=
        ih.mpr fun later call earlier reply hcalls =>
          h (last :: later) call earlier reply (congrArg (List.cons last) hcalls)
      cases hreply : v.reply calls last with
      | error fault => rw [countReplies_of_error hreply, hearlier]
      | ok reply =>
        rw [countReplies_of_ok hreply, hearlier, h [] last calls reply rfl hreply]
        rfl

end Replies

def Phase.Counts (v : Service) (calls : List Call) (failures : ℕ) : Phase → Prop
  | .opening => failures = v.countReplies Reply.showsFailure calls
  | .reading => failures = v.countReplies Reply.showsFailure calls
  | .calling _ _ => failures = v.countReplies Reply.showsFailure calls
  | .writing _ _ _ => failures = v.countReplies Reply.showsFailure calls.tail
  | .flushing _ _ => failures = v.countReplies Reply.showsFailure calls.tail
  | .ended (.ok summary) =>
    summary.failures = v.countReplies Reply.showsFailure calls
  | .ended (.error _) => True

section Counter

variable {v : Service} {peer : String} {m : Moment}

def Moment.Counts (v : Service) (m : Moment) : Prop :=
  m.session.phase.Counts v m.calls m.session.summary.failures

theorem counts_taking {calls : List Call} {failures : ℕ}
    (h : failures = v.countReplies Reply.showsFailure calls)
    (frames : List Frame) : (Phase.taking frames).Counts v calls failures := by
  rcases taking_cases frames with hp | ⟨r, rest, hp⟩
  · rw [hp]
    exact h
  · rw [hp]
    exact h

theorem Replying.countReplies_showsFailure {calls : List Call} {steps : List Step} {line : Line}
    {left : List UInt8} (h : Replying v peer line left calls steps) :
    v.countReplies Reply.showsFailure calls =
      v.countReplies Reply.showsFailure calls.tail + if line.isFailure then 1 else 0 := by
  obtain ⟨h, hreply, hline, hwrites⟩ := h
  rw [countReplies_of_ok hreply, Reply.showsFailure, hline, List.tail_cons]

theorem Moment.Counts.inPhase (h : m.Counts v) {p : Phase} (hp : m.session.phase = p) :
    p.Counts v m.calls m.session.summary.failures := by
  subst hp
  exact h

theorem Moment.Counts.next (h : m.Counts v) (hrecorded : Recorded v peer m) :
    (m.next v).Counts v := by
  obtain ⟨steps, left, s, hstep, hnext⟩ := m.exists_transition v
  rw [hnext, Moment.Counts, m.calls_append]
  cases hstep with
  | opened hp =>
    have hcounts := h.inPhase hp
    exact hcounts
  | closed hp hread =>
    have hcounts := h.inPhase hp
    rw [Session.callsAfter_of_quiet (Session.close_exchangeOf _)]
    exact hcounts
  | @received bytes hp hne hread =>
    have hfailures : (m.session.receive bytes).2.summary.failures = m.session.summary.failures := by
      simp only [Session.receive, Session.handle_session]
    rw [Session.callsAfter_of_quiet (Session.receive_exchangeOf _ _), Session.receive_phase,
      hfailures]
    exact counts_taking (h.inPhase hp) _
  | unread hp hread => trivial
  | answered hp hreply =>
    have hcounts := h.inPhase hp
    exact hcounts
  | refused hp hreply => trivial
  | wrote hp hwrite hpos hlt =>
    have hcounts := h.inPhase hp
    exact hcounts
  | wroteAll hp hwrite hpos hle =>
    have hcounts := h.inPhase hp
    exact hcounts
  | wroteNothing hp hwrite => trivial
  | unwritten hp hwrite => trivial
  | @flushed line rest hp hflush =>
    have hcounts := h.inPhase hp
    have hreplying := hrecorded.inPhase hp
    have hfailures : (m.session.sent line rest).2.summary.failures =
        m.session.summary.failures + if line.isFailure then 1 else 0 := by
      simp only [Session.sent, Session.handle_session]
    have hsame : Session.callsAfter m.calls (m.session.sent line rest).1 = m.calls := by
      rw [← Session.callsAfter_exchangeOf, Session.sent_exchangeOf]
      rfl
    -- The line that has been sent is that of the latest call, which now counts too.
    rw [hsame, Session.sent_phase, hfailures]
    apply counts_taking
    rw [hcounts]
    exact (Replying.countReplies_showsFailure hreplying).symm
  | unflushed hp hflush => trivial
  | ended hp =>
    have hcounts := h.inPhase hp
    rw [hp]
    exact hcounts

theorem counts_moment (v : Service) (peer : String) (c : Connection) (n : ℕ) :
    (v.moment peer c n).Counts v := by
  induction n with
  | zero => exact rfl
  | succ n ih =>
    rw [v.moment_succ]
    exact ih.next (recorded_moment v peer c n)

theorem failures_of_ok (v : Service) (peer : String) (c : Connection) (summary : Summary)
    (h : (v.serve peer c).2 = .ok summary) :
    summary.failures = v.countReplies Reply.showsFailure
      (Session.callsAfter [] (v.serve peer c).1) := by
  obtain ⟨n, hsteps, hended⟩ := v.exists_moment_serve peer c
  have hcounts := counts_moment v peer c n
  rw [h] at hended
  rw [← hsteps]
  exact hcounts.inPhase hended

end Counter

section Transcript

variable {v : Service} {peer : String} {calls : List Call} {steps : List Step}

theorem failures_replySteps {reply : Reply} {earlier : List Call} {call : Call} :
    (eventsOf (v.replySteps peer earlier call reply)).countP Event.isFailure =
      if reply.isFailure then 1 else 0 := by
  cases reply <;> rfl

theorem Chronicle.failures (h : Chronicle v peer calls steps) :
    (eventsOf steps).countP Event.isFailure = v.countReplies Reply.isFailure calls := by
  induction h with
  | opened => rfl
  | read h hsize ih => simpa [eventsOf] using ih
  | echoed h text ih => simpa [eventsOf] using ih
  | discarded h ih =>
    rw [eventsOf_append, List.countP_append, ih]
    rfl
  | @replied earlier steps call reply writes h hreply hwrites ih =>
    have hflushed : eventsOf [.flush, .state .dispatching .accumulating] = [] := rfl
    rw [eventsOf_append, eventsOf_append, eventsOf_append, eventsOf_writes, hflushed,
      List.countP_append, List.countP_append, ih, failures_replySteps, countReplies_of_ok hreply]
    rfl

theorem failures_of_chronicled {result : Except SessionError Summary}
    (h : (Phase.ended result).Chronicled v peer calls steps) :
    (eventsOf steps).countP Event.isFailure = v.countReplies Reply.isFailure calls := by
  match result, h with
  | .ok summary, ⟨before, bytes, character, hbefore, hsteps⟩ =>
    rw [hsteps, eventsOf_append, eventsOf_closingSteps, List.countP_append, hbefore.failures]
    rfl
  | .error (.io cause), .inl h => exact h.failures
  | .error (.io cause), .inr ⟨line, left, h⟩ =>
    obtain ⟨hbefore, hreply, hline, hwrites⟩ := h
    rw [eventsOf_append, eventsOf_append, eventsOf_writes, List.append_nil, List.countP_append,
      hbefore.failures, failures_replySteps, countReplies_of_ok hreply]
  | .error (.backend fault), h =>
    obtain ⟨hbefore, hreply⟩ := h
    rw [eventsOf_append, List.countP_append, hbefore.failures, countReplies_of_error hreply]
    rfl

end Transcript

theorem serve_failures (v : Service) (peer : String) (c : Connection) :
    let (steps, result) := v.serve peer c
    let calls := Session.callsAfter [] steps
    let recorded := (eventsOf steps).countP Event.isFailure
    recorded = v.countReplies Reply.isFailure calls ∧
      (∀ summary, result = .ok summary →
        (eventsOf steps).getLast? = some (.sessionClosed peer summary) ∧
          summary.failures = recorded + v.countReplies Reply.posesAsFailure calls ∧
          (summary.failures = recorded ↔
            ∀ later call earlier reply, calls = later ++ call :: earlier →
              v.reply earlier call = .ok reply → reply.posesAsFailure = false)) ∧
      ∀ reply : Reply, reply.line.isFailure = reply.isFailure ↔ reply.posesAsFailure = false := by
  have hrun := chronicled_serve v peer c
  have hcounted := failures_of_ok v peer c
  generalize v.serve peer c = run at hrun hcounted ⊢
  obtain ⟨steps, result⟩ := run
  have hrecorded := failures_of_chronicled hrun
  refine ⟨hrecorded, ?_, ?_⟩
  · rintro summary rfl
    have hfailures := hcounted summary rfl
    obtain ⟨before, bytes, character, hbefore, hsteps⟩ := hrun
    have hlast : (eventsOf steps).getLast? = some (.sessionClosed peer summary) := by
      rw [hsteps, eventsOf_append, eventsOf_closingSteps, List.getLast?_concat]
    rw [countReplies_showsFailure, ← hrecorded] at hfailures
    refine ⟨hlast, hfailures, ?_⟩
    rw [hfailures, Nat.add_eq_left, countReplies_eq_zero_iff]
  · intro reply
    rw [← Reply.showsFailure, reply.showsFailure_eq]
    cases reply with
    | text raw => simp [Reply.isFailure]
    | failure cause => simp [Reply.isFailure, Reply.posesAsFailure]

def boastful : Service where
  backend :=
    { kind := .remote
      description := "boastful"
      answer := fun _ _ => { outcome := .ok (.text "ERROR: x") } }
  dispatch := {}

theorem serve_boastful :
    let (steps, result) := boastful.serve "peer" oneRequest
    (∃ summary, result = .ok summary ∧ summary.failures = 1 ∧
      (eventsOf steps).getLast? = some (.sessionClosed "peer" summary)) ∧
      (eventsOf steps).countP Event.isFailure = 0 ∧
      (Reply.text "ERROR: x").line.isFailure = true ∧ (Reply.text "ERROR: x").isFailure = false := by
  have hrun : boastful.serve "peer" oneRequest =
      ((boastful.moment "peer" oneRequest 6).steps, .ok _) := Service.serve_of_ended rfl
  have hevents : eventsOf (boastful.moment "peer" oneRequest 6).steps =
      [.sessionOpened "peer", .request "peer" "a", .reply "peer" "ERROR: x" 0,
        .sessionClosed "peer" { answered := 1, failures := 1, bytesRead := 10 }] := by
    decide +kernel
  have hline : (Reply.text "ERROR: x").line.isFailure = true := by decide +kernel
  rw [hrun]
  simp only [hevents]
  exact ⟨⟨_, rfl, rfl, rfl⟩, rfl, hline, rfl⟩

end PromptRelay
