import PromptRelay.ChatService
import PromptRelay.Proofs.Session.Agreement
import PromptRelay.Proofs.Session.Delivery
import PromptRelay.Proofs.Session.EndToEnd
import PromptRelay.Proofs.Session.Lifecycle

namespace PromptRelay

def tolerate : Outcome → Outcome
  | .ok reply => .ok reply
  | .error fault => .ok (.failure fault.message)

namespace Service

def Faults (v : Service) (earlier : List Call) (call : Call) (fault : Fault) : Prop :=
  (v.backend.answer earlier call).outcome = .error fault ∧
    ∀ limit, v.dispatch.timeout = some limit → (v.backend.answer earlier call).delay ≤ limit

def tolerating (v : Service) (which : List Call → Call → Bool) : Service :=
  { v with
    backend.answer := fun earlier call =>
      let answer := v.backend.answer earlier call
      if which earlier call then { answer with outcome := tolerate answer.outcome } else answer }

theorem Faults.ask_eq {v : Service} {earlier : List Call} {call : Call} {fault : Fault}
    (h : v.Faults earlier call fault) : (v.ask earlier call).1 = .error fault := by
  obtain ⟨houtcome, htime⟩ := h
  simp only [ask, Dispatch.await, houtcome]
  cases hlimit : v.dispatch.timeout with
  | none => rfl
  | some limit => exact if_neg (Nat.not_lt.mpr (htime limit hlimit))

theorem Faults.reply_eq {v : Service} {earlier : List Call} {call : Call} {fault : Fault}
    (h : v.Faults earlier call fault) (hkind : v.backend.kind = .onDevice) :
    v.reply earlier call = .error fault := by
  rw [reply, h.ask_eq, hkind]
  rfl

theorem replyOf_tolerate (d : Dispatch) (delay : ℕ) (outcome : Outcome) :
    Session.replyOf .remote (d.await delay (tolerate outcome)) =
      Session.replyOf .remote (d.await delay outcome) := by
  cases outcome with
  | ok reply => rfl
  | error fault =>
    unfold Dispatch.await
    split
    · split_ifs <;> rfl
    · rfl

theorem agreesOn_tolerating {v : Service} (hkind : v.backend.kind = .remote)
    (which : List Call → Call → Bool) (earlier : List Call) (call : Call) :
    (v.tolerating which).AgreesOn v earlier call := by
  constructor
  · simp only [reply, ask, tolerating, hkind]
    split_ifs with hwhich
    · exact replyOf_tolerate _ _ _
    · rfl
  · simp only [ask, tolerating]
    split_ifs <;> rfl

end Service

theorem Session.run_tolerating {v : Service} (hkind : v.backend.kind = .remote)
    (which : List Call → Call → Bool) (earlier : List Call) (c : Connection) (s : Session) :
    s.run (v.tolerating which) earlier c = s.run v earlier c := by
  have hasks : (v.tolerating which).AsksLike v := ⟨fun r => rfl, rfl⟩
  apply run_of_agreesOn hasks
  intro later call before hcalls hbefore
  exact Service.agreesOn_tolerating hkind which before call

section

variable {v : Service} {peer : String} {calls : List Call} {steps : List Step} {fault : Fault}

theorem Faulted.written {call : Call} (h : Faulted v peer fault (call :: calls) steps) :
    PromptRelay.written steps = (v.lines calls.reverse).flatten := by
  obtain ⟨hbefore, hreply⟩ := h
  rw [written_append_of_eq_nil rfl, hbefore.written]

theorem Faulted.exists_refused (h : Faulted v peer fault calls steps) :
    ∃ earlier call, v.reply earlier call = .error fault := by
  obtain ⟨hbefore, hreply⟩ := h
  exact ⟨_, _, hreply⟩

theorem Faulted.getLast?_eventsOf (h : Faulted v peer fault calls steps) :
    (eventsOf steps).getLast? = some (.fault peer fault.message) := by
  obtain @⟨earlier, before, call, hbefore, hreply⟩ := h
  have hlast : eventsOf (takeUp peer call.query ++ [.call call, .event (.fault peer fault.message)]) =
      [.request peer call.query] ++ [.fault peer fault.message] := rfl
  rw [eventsOf_append, hlast, ← List.append_assoc, List.getLast?_concat]

theorem fault_of_chronicled {result : Except SessionError Summary}
    (h : (Phase.ended result).Chronicled v peer calls steps) (hkind : v.backend.kind = .onDevice)
    {before after : List Call} {call : Call} (hcalls : calls.reverse = before ++ call :: after)
    (hfault : v.Faults before.reverse call fault) :
    result = .error (.backend fault) ∧ after = [] ∧
      PromptRelay.written steps = (v.lines before).flatten ∧
      (eventsOf steps).getLast? = some (.fault peer fault.message) := by
  have hlatest : calls = after.reverse ++ call :: before.reverse := by
    rw [← List.reverse_reverse calls, hcalls]
    simp
  obtain ⟨hresult, hafter, hfaulted⟩ := faulted_of_chronicled h hlatest (hfault.reply_eq hkind)
  have hlast := hfaulted.getLast?_eventsOf
  rw [hlatest, hafter] at hfaulted
  have hwritten := Faulted.written hfaulted
  rw [List.reverse_reverse] at hwritten
  exact ⟨hresult, List.reverse_eq_nil_iff.mp hafter, hwritten, hlast⟩

end

section

variable {v : Service} (peer : String) (c : Connection)

theorem goesOn_of_remote (hkind : v.backend.kind = .remote) : v.GoesOn := by
  intro hpolicy
  rw [hkind] at hpolicy
  cases hpolicy

theorem serve_ne_fault (hkind : v.backend.kind = .remote) (fault : Fault) :
    (v.serve peer c).2 ≠ .error (.backend fault) := by
  intro hresult
  have hrun := chronicled_serve v peer c
  simp only [hresult] at hrun
  obtain ⟨earlier, call, hreply⟩ := Faulted.exists_refused hrun
  exact (goesOn_of_remote hkind).reply_ne _ _ _ hreply

theorem serve_ok (hservice : v.GoesOn) (hc : c.IsReliable) :
    ∃ summary, (v.serve peer c).2 = .ok summary := by
  obtain ⟨n, -, hended⟩ := v.exists_moment_serve peer c
  have hsound := (unbroken_moment hservice hc peer n).phase
  rw [hended] at hsound
  cases hresult : (v.serve peer c).2 with
  | error e =>
    rw [hresult] at hsound
    exact hsound.elim
  | ok summary => exact ⟨summary, rfl⟩

end

theorem Model.fault_iff (m : Model) (earlier : List Call) (call : Call) :
    (∃ fault, (m.backend.answer earlier call).outcome = .error fault) ↔
      (∃ e, m.generate earlier call = .failed e) ∨
        ∃ message, m.generate earlier call = .crashed message := by
  simp only [Model.backend]
  cases hgenerate : m.generate earlier call with
  | text raw => simp [Model.outcome]
  | failed e => simp [Model.outcome]
  | crashed message => cases message <;> simp [Model.outcome]

theorem serve_faults (v : Service) (peer : String) (c : Connection) :
    let (steps, result) := v.serve peer c
    let calls := (Session.callsAfter [] steps).reverse
    (v.backend.kind = .onDevice → ∀ before call after fault,
      calls = before ++ call :: after → v.Faults before.reverse call fault →
        result = .error (.backend fault) ∧ (SessionError.backend fault).isFatal ∧ after = [] ∧
          written steps = (v.lines before).flatten ∧
          (eventsOf steps).getLast? = some (.fault peer fault.message)) ∧
      (v.backend.kind = .remote →
        (∀ which, (v.tolerating which).serve peer c = (steps, result)) ∧
          (∀ fault, result ≠ .error (.backend fault)) ∧
          (0 < v.dispatch.readBufferSize → c.IsReliable →
            (∃ summary, result = .ok summary) ∧ calls = v.dispatch.callsFor c.stream ∧
              written steps = (v.lines calls).flatten)) ∧
      (∀ (m : Model) earlier call, m.backend.kind = .onDevice ∧
        ((∃ fault, (m.backend.answer earlier call).outcome = .error fault) ↔
          (∃ e, m.generate earlier call = .failed e) ∨
            ∃ message, m.generate earlier call = .crashed message)) ∧
      ∀ (r : ChatService) exchange earlier call, (r.backend exchange).kind = .remote ∧
        ∀ fault, ((r.backend exchange).answer earlier call).outcome ≠ .error fault := by
  refine ⟨?_, ?_, ?_, ?_⟩
  · intro hkind before call after fault hcalls hfault
    obtain ⟨hresult, hafter, hwritten, hlast⟩ :=
      fault_of_chronicled (chronicled_serve v peer c) hkind hcalls hfault
    exact ⟨hresult, rfl, hafter, hwritten, hlast⟩
  · intro hkind
    refine ⟨fun which => Session.run_tolerating hkind which _ _ _, serve_ne_fault peer c hkind, ?_⟩
    intro hsize hc
    obtain ⟨summary, hresult⟩ := serve_ok peer c (goesOn_of_remote hkind) hc
    exact ⟨⟨summary, hresult⟩, calls_of_ok v peer c hsize hresult, written_of_ok v peer c hresult⟩
  · exact fun m earlier call => ⟨rfl, m.fault_iff earlier call⟩
  · exact fun r exchange earlier call => ⟨rfl, fun fault => nofun⟩

def brittle : Service where
  backend := Model.backend
    { description := "brittle"
      generate := fun earlier _ =>
        if earlier.isEmpty then .text "4\n" else .crashed (some "out of memory") }
  dispatch := { timeout := some 1000 }

def threeRequests : Connection where
  arrivals := [.bytes (Utf8.encode "AI_REQ: a\nAI_REQ: b\nAI_REQ: c\n".toList)]

theorem serve_brittle :
    let (steps, result) := brittle.serve "peer" threeRequests
    result = .error (.backend (.workerCrashed
        "task 2 panicked with message \"out of memory\"")) ∧
      written steps = Utf8.encode "4\n".toList := by
  have hrun : brittle.serve "peer" threeRequests =
      ((brittle.moment "peer" threeRequests 6).steps, _) := Service.serve_of_ended rfl
  have hcalls : (Session.callsAfter [] (brittle.serve "peer" threeRequests).1).reverse =
      [brittle.dispatch.call ⟨"a"⟩] ++ brittle.dispatch.call ⟨"b"⟩ :: [] := by
    rw [hrun]
    rfl
  have hfault : brittle.Faults [brittle.dispatch.call ⟨"a"⟩] (brittle.dispatch.call ⟨"b"⟩)
      (.workerCrashed "task 2 panicked with message \"out of memory\"") :=
    ⟨rfl, fun limit _ => Nat.zero_le limit⟩
  have hlines : (brittle.lines [brittle.dispatch.call ⟨"a"⟩]).flatten =
      Utf8.encode "4\n".toList := by
    decide +kernel
  obtain ⟨hresult, -, -, hwritten, -⟩ :=
    (serve_faults brittle "peer" threeRequests).1 rfl _ _ _ _ hcalls hfault
  exact ⟨hresult, hwritten.trans hlines⟩

end PromptRelay
