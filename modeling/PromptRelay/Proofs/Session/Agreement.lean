import PromptRelay.Proofs.Session.Moments

namespace PromptRelay

structure Service.AsksLike (v w : Service) : Prop where
  call : ∀ r, v.dispatch.call r = w.dispatch.call r
  readBufferSize : v.dispatch.readBufferSize = w.dispatch.readBufferSize

structure Service.AgreesOn (v w : Service) (earlier : List Call) (call : Call) : Prop where
  reply : v.reply earlier call = w.reply earlier call
  elapsed : (v.ask earlier call).2 = (w.ask earlier call).2

namespace Session

variable {v w : Service}

theorem resume_of_not_calling {s : Session} (h : ∀ r rest, s.phase ≠ .calling r rest)
    (x : Signal) : s.resume v.dispatch v.backend.kind x = s.resume w.dispatch w.backend.kind x := by
  cases hp : s.phase with
  | calling r rest => exact absurd hp (h r rest)
  | reading =>
    cases x with
    | received bytes => cases bytes <;> simp only [resume, hp]
    | _ => simp only [resume, hp]
  | _ => cases x <;> simp only [resume, hp]

theorem step_of_agreesOn (hasks : v.AsksLike w) {earlier : List Call} {s : Session}
    (h : ∀ r rest, s.phase = .calling r rest → v.AgreesOn w earlier (w.dispatch.call r))
    (c : Connection) : s.step v earlier c = s.step w earlier c := by
  -- Nothing but a call asks the backend.
  by_cases hcalling : ∃ r rest, s.phase = .calling r rest
  · obtain ⟨r, rest, hp⟩ := hcalling
    obtain ⟨hreply, helapsed⟩ := h r rest hp
    simp only [Service.reply] at hreply
    simp only [step, signal, resume, hp, answer, hasks.call, hreply, helapsed]
  · have hother : ∀ r rest, s.phase ≠ .calling r rest := by
      intro r rest hp
      exact hcalling ⟨r, rest, hp⟩
    have hsignal : s.signal v earlier c = s.signal w earlier c := by
      cases hp : s.phase with
      | calling r rest => exact absurd hp (hother r rest)
      | _ => simp only [signal, hp, hasks.readBufferSize]
    have hresume : s.resume v.dispatch v.backend.kind (s.signal w earlier c).1 =
        s.resume w.dispatch w.backend.kind (s.signal w earlier c).1 :=
      resume_of_not_calling hother _
    simp only [step, hsignal, hresume]

theorem exists_callsAfter (earlier : List Call) (steps : List Step) :
    ∃ later, callsAfter earlier steps = later ++ earlier :=
  ⟨_, rfl⟩

theorem callsAfter_step_of_calling (c : Connection) {earlier : List Call} {s : Session} {r : Request}
    {rest : List Frame} (hp : s.phase = .calling r rest) :
    callsAfter earlier (s.step v earlier c).1 = v.dispatch.call r :: earlier := by
  have hstep := s.step_transition v earlier c
  generalize s.step v earlier c = next at hstep ⊢
  obtain ⟨steps, left, t⟩ := next
  cases hstep with
  | answered hcalling hreply =>
    rw [hp] at hcalling
    obtain ⟨rfl, -⟩ := Phase.calling.inj hcalling
    rfl
  | refused hcalling hreply =>
    rw [hp] at hcalling
    obtain ⟨rfl, -⟩ := Phase.calling.inj hcalling
    rfl
  | _ => simp_all

theorem run_of_agreesOn (hasks : v.AsksLike w) (earlier : List Call) (c : Connection) (s : Session)
    (h : ∀ later call before, callsAfter earlier (s.run w earlier c).1 = later ++ call :: before →
      earlier <:+ before → v.AgreesOn w before call) :
    s.run v earlier c = s.run w earlier c := by
  induction earlier, c, s using Session.run.induct w with
  | case1 earlier c s result hresult =>
    rw [run_of_ended _ _ _ hresult, run_of_ended _ _ _ hresult]
  | case2 earlier c s hresult _ _ _ _ ih =>
    rw [run_of_running w _ _ hresult] at h
    simp only [callsAfter_append] at h
    have hstep : s.step v earlier c = s.step w earlier c := by
      apply step_of_agreesOn hasks
      intro r rest hp
      obtain ⟨later, hlater⟩ := exists_callsAfter (callsAfter earlier (s.step w earlier c).1)
        ((s.step w earlier c).2.2.run w (callsAfter earlier (s.step w earlier c).1)
          (s.step w earlier c).2.1).1
      apply h later (w.dispatch.call r) earlier _ (List.suffix_refl earlier)
      rw [hlater, callsAfter_step_of_calling c hp]
    rw [run_of_running v _ _ hresult, run_of_running w _ _ hresult, hstep]
    rw [ih]
    intro later call before hcalls hbefore
    obtain ⟨made, hmade⟩ := exists_callsAfter earlier (s.step w earlier c).1
    apply h later call before hcalls
    exact List.IsSuffix.trans ⟨made, hmade.symm⟩ hbefore

end Session

theorem serve_of_agreesOn {v w : Service} (hasks : v.AsksLike w) (peer : String) (c : Connection)
    (h : ∀ later call earlier, Session.callsAfter [] (w.serve peer c).1 = later ++ call :: earlier →
      v.AgreesOn w earlier call) :
    v.serve peer c = w.serve peer c :=
  Session.run_of_agreesOn hasks [] c _ fun later call before hcalls _ => h later call before hcalls

end PromptRelay
