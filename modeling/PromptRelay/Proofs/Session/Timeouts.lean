import PromptRelay.Proofs.Session.FaultPolicy

namespace PromptRelay

namespace Service

variable (v : Service) (limit : ℕ)

def within (timeout : Option ℕ) : Service :=
  { v with dispatch.timeout := timeout }

/-- The service that awaits every answer, of a backend that gives up what is late by itself. -/
def settled : Service :=
  { v.within none with
    backend.answer := fun earlier call =>
      let answer := v.backend.answer earlier call
      if answer.delay ≤ limit then answer
      else
        { delay := limit
          outcome := .ok (.failure
            ("backend timed out after " ++ Dispatch.secondsText limit ++ "s")) } }

variable {v limit} {earlier : List Call} {call : Call}

theorem ask_within : (v.within (some limit)).ask earlier call =
    (if limit < (v.backend.answer earlier call).delay then .ok (Dispatch.timeoutReply limit)
      else (v.backend.answer earlier call).outcome,
      min limit (v.backend.answer earlier call).delay) :=
  rfl

theorem ask_of_in_time (h : (v.backend.answer earlier call).delay ≤ limit) :
    (v.within (some limit)).ask earlier call =
      ((v.backend.answer earlier call).outcome, (v.backend.answer earlier call).delay) := by
  rw [ask_within, if_neg (Nat.not_lt.mpr h), Nat.min_eq_right h]

theorem ask_of_late (h : limit < (v.backend.answer earlier call).delay) :
    (v.within (some limit)).ask earlier call =
      (.ok (.failure ("backend timed out after " ++ Dispatch.secondsText limit ++ "s")), limit) := by
  rw [ask_within, if_pos h, Nat.min_eq_left (Nat.le_of_lt h)]
  rfl

theorem ask_settled :
    (v.settled limit).ask earlier call = (v.within (some limit)).ask earlier call := by
  have hask : (v.settled limit).ask earlier call =
      (((v.settled limit).backend.answer earlier call).outcome,
        ((v.settled limit).backend.answer earlier call).delay) := rfl
  by_cases h : (v.backend.answer earlier call).delay ≤ limit
  · rw [hask, ask_of_in_time h]
    simp only [settled, within, if_pos h]
  · rw [hask, ask_of_late (Nat.lt_of_not_le h)]
    simp only [settled, within, if_neg h]

theorem AgreesOn.of_ask {w : Service} (hkind : v.backend.kind = w.backend.kind)
    (hask : v.ask earlier call = w.ask earlier call) : v.AgreesOn w earlier call where
  reply := by rw [Service.reply, Service.reply, hkind, hask]
  elapsed := by rw [hask]

theorem reply_within_eq_error {fault : Fault}
    (h : (v.within (some limit)).reply earlier call = .error fault) :
    v.backend.kind.policy = .failFast ∧ (v.backend.answer earlier call).delay ≤ limit ∧
      (v.backend.answer earlier call).outcome = .error fault := by
  by_cases htime : (v.backend.answer earlier call).delay ≤ limit
  · rw [reply, ask_of_in_time htime] at h
    obtain ⟨hpolicy, houtcome⟩ := Session.replyOf_eq_error h
    exact ⟨hpolicy, htime, houtcome⟩
  · rw [reply, ask_of_late (Nat.lt_of_not_le htime)] at h
    cases h

end Service

section

variable {v : Service} {peer : String} {c : Connection} {limit : ℕ}

theorem serve_settled (v : Service) (limit : ℕ) (peer : String) (c : Connection) :
    (v.settled limit).serve peer c = (v.within (some limit)).serve peer c := by
  have hasks : (v.settled limit).AsksLike (v.within (some limit)) := ⟨fun r => rfl, rfl⟩
  apply serve_of_agreesOn hasks
  intro later call earlier hcalls
  exact .of_ask rfl Service.ask_settled

theorem serve_of_in_time
    (h : ∀ later call earlier,
      Session.callsAfter [] ((v.within (some limit)).serve peer c).1 = later ++ call :: earlier →
        (v.backend.answer earlier call).delay ≤ limit) :
    (v.within none).serve peer c = (v.within (some limit)).serve peer c := by
  have hasks : (v.within none).AsksLike (v.within (some limit)) := ⟨fun r => rfl, rfl⟩
  apply serve_of_agreesOn hasks
  intro later call earlier hcalls
  have hask : (v.within none).ask earlier call = (v.within (some limit)).ask earlier call := by
    rw [Service.ask_of_in_time (h later call earlier hcalls)]
    rfl
  exact .of_ask rfl hask

theorem serve_of_late {other : Backend} (hkind : other.kind = v.backend.kind)
    (h : ∀ later call earlier,
      Session.callsAfter [] ((v.within (some limit)).serve peer c).1 = later ++ call :: earlier →
        other.answer earlier call = v.backend.answer earlier call ∨
          limit < (other.answer earlier call).delay ∧
            limit < (v.backend.answer earlier call).delay) :
    ({ v with backend := other }.within (some limit)).serve peer c =
      (v.within (some limit)).serve peer c := by
  have hasks : ({ v with backend := other }.within (some limit)).AsksLike
      (v.within (some limit)) := ⟨fun r => rfl, rfl⟩
  apply serve_of_agreesOn hasks
  intro later call earlier hcalls
  apply Service.AgreesOn.of_ask hkind
  rcases h later call earlier hcalls with hsame | ⟨hother, hlate⟩
  · simp only [Service.ask, Service.within, hsame]
  · have hlate' : limit < (({ v with backend := other } : Service).backend.answer
      earlier call).delay := hother
    rw [Service.ask_of_late hlate, Service.ask_of_late hlate']

theorem replyOf_remote {kind : BackendKind} {outcome : Outcome} {reply : Reply}
    (h : Session.replyOf kind outcome = .ok reply) :
    Session.replyOf .remote outcome = .ok reply := by
  cases outcome with
  | ok answer => exact h
  | error fault =>
    cases kind with
    | onDevice => cases h
    | remote => exact h

theorem serve_of_isReliable (v : Service) (peer : String) (hc : c.IsReliable) :
    (∃ fault, (v.serve peer c).2 = .error (.backend fault)) ∨
      ∃ summary, (v.serve peer c).2 = .ok summary := by
  by_cases hfault : ∃ fault, (v.serve peer c).2 = .error (.backend fault)
  · exact .inl hfault
  -- A service without faults does the same, as no call has come to one, and it goes on.
  let steady : Service := { v with backend.kind := .remote }
  have hagrees : ∀ later call earlier,
      Session.callsAfter [] (v.serve peer c).1 = later ++ call :: earlier →
        steady.AgreesOn v earlier call := by
    intro later call earlier hcalls
    refine ⟨?_, rfl⟩
    cases hreply : v.reply earlier call with
    | ok reply => exact replyOf_remote hreply
    | error fault =>
      obtain ⟨hresult, -, -⟩ := faulted_of_chronicled (chronicled_serve v peer c) hcalls hreply
      exact absurd ⟨fault, hresult⟩ hfault
  have hasks : steady.AsksLike v := ⟨fun r => rfl, rfl⟩
  have hsame := serve_of_agreesOn hasks peer c hagrees
  have hsteady : steady.GoesOn := goesOn_of_remote rfl
  rw [← hsame]
  exact .inr (serve_ok peer c hsteady hc)

theorem fault_in_time {fault : Fault}
    (h : ((v.within (some limit)).serve peer c).2 = .error (.backend fault)) :
    ∃ call earlier, Session.callsAfter [] ((v.within (some limit)).serve peer c).1 =
        call :: earlier ∧ v.backend.kind.policy = .failFast ∧
      (v.backend.answer earlier call).delay ≤ limit ∧
        (v.backend.answer earlier call).outcome = .error fault := by
  have hrun := chronicled_serve (v.within (some limit)) peer c
  simp only [h] at hrun
  generalize ((v.within (some limit)).serve peer c).1 = steps at hrun ⊢
  generalize Session.callsAfter [] steps = calls at hrun ⊢
  obtain @⟨earlier, before, call, hbefore, hreply⟩ := hrun
  exact ⟨call, earlier, rfl, Service.reply_within_eq_error hreply⟩

end

theorem serve_within (v : Service) (limit : ℕ) (peer : String) (c : Connection) :
    let (steps, result) := (v.within (some limit)).serve peer c
    let calls := Session.callsAfter [] steps
    (v.settled limit).serve peer c = (steps, result) ∧
      ((∀ later call earlier, calls = later ++ call :: earlier →
          (v.backend.answer earlier call).delay ≤ limit) →
        (v.within none).serve peer c = (steps, result)) ∧
      (∀ other : Backend, other.kind = v.backend.kind →
        (∀ later call earlier, calls = later ++ call :: earlier →
          other.answer earlier call = v.backend.answer earlier call ∨
            limit < (other.answer earlier call).delay ∧
              limit < (v.backend.answer earlier call).delay) →
        ({ v with backend := other }.within (some limit)).serve peer c = (steps, result)) ∧
      (∀ fault, result = .error (.backend fault) → ∃ call earlier, calls = call :: earlier ∧
        v.backend.kind.policy = .failFast ∧ (v.backend.answer earlier call).delay ≤ limit ∧
          (v.backend.answer earlier call).outcome = .error fault) ∧
      (0 < v.dispatch.readBufferSize → c.IsReliable →
        (∃ fault, result = .error (.backend fault)) ∨
          (∃ summary, result = .ok summary) ∧ calls.reverse = v.dispatch.callsFor c.stream ∧
            written steps = ((v.settled limit).lines calls.reverse).flatten) := by
  refine ⟨serve_settled v limit peer c, serve_of_in_time, fun other => serve_of_late,
    fun fault => fault_in_time, ?_⟩
  intro hsize hc
  rcases serve_of_isReliable (v.within (some limit)) peer hc with hfault | ⟨summary, hresult⟩
  · exact .inl hfault
  · have hsettled : ((v.settled limit).serve peer c).2 = .ok summary := by
      rw [serve_settled, hresult]
    have hwritten := written_of_ok (v.settled limit) peer c hsettled
    rw [serve_settled] at hwritten
    exact .inr ⟨⟨summary, hresult⟩, calls_of_ok (v.within (some limit)) peer c hsize hresult,
      hwritten⟩

def sluggish : Service where
  backend :=
    { kind := .onDevice
      description := "sluggish"
      answer := fun earlier call =>
        if earlier.isEmpty then { delay := 21, outcome := .error (.model "out of memory") }
        else { delay := 20, outcome := .ok (.text call.query) } }
  dispatch := {}

theorem serve_sluggish :
    let (steps, result) := (sluggish.within (some 20)).serve "peer" threeRequests
    (∃ summary, result = .ok summary) ∧
      written steps = Utf8.encode "ERROR: backend timed out after 0.02s\nb\nc\n".toList := by
  have hreliable : threeRequests.IsReliable := ⟨rfl, fun i n hn => ⟨n, hn, rfl⟩, fun i => rfl⟩
  have hsize : 0 < sluggish.dispatch.readBufferSize := by decide
  obtain ⟨-, -, -, hfaults, hends⟩ := serve_within sluggish 20 "peer" threeRequests
  have hcalls : sluggish.dispatch.callsFor threeRequests.stream =
      [sluggish.dispatch.call ⟨"a"⟩, sluggish.dispatch.call ⟨"b"⟩,
        sluggish.dispatch.call ⟨"c"⟩] := by
    have htext := congrArg Prod.fst (Utf8.Decoder.feed_empty threeRequests.stream)
    simp only at htext
    rw [Dispatch.callsFor, ← htext]
    rfl
  have hlines : ((sluggish.settled 20).lines [sluggish.dispatch.call ⟨"a"⟩,
      sluggish.dispatch.call ⟨"b"⟩, sluggish.dispatch.call ⟨"c"⟩]).flatten =
      Utf8.encode "ERROR: backend timed out after 0.02s\nb\nc\n".toList := by
    decide +kernel
  rcases hends hsize hreliable with ⟨fault, hfault⟩ | ⟨hresult, hmade, hwritten⟩
  · -- The only fault is that of the first call, which is late.
    obtain ⟨call, earlier, -, -, htime, houtcome⟩ := hfaults fault hfault
    cases earlier with
    | nil =>
      have hlate : ¬21 ≤ 20 := by decide
      exact absurd htime hlate
    | cons last earlier => cases houtcome
  · rw [hmade, hcalls, hlines] at hwritten
    exact ⟨hresult, hwritten⟩

end PromptRelay
