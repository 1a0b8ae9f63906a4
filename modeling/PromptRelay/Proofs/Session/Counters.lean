import PromptRelay.Proofs.Session.Lifecycle

namespace PromptRelay

def Event.isDiscarded : Event → Bool
  | .discarded _ => true
  | _ => false

structure Summary.Tallies (summary : Summary) (steps : List Step) : Prop where
  answered : summary.answered = steps.count .flush
  discarded : summary.discarded = (eventsOf steps).countP Event.isDiscarded
  bytesRead : summary.bytesRead = readSize steps

theorem countP_takingSteps (peer : String) (frames : List Frame) :
    (eventsOf (takingSteps peer frames)).countP Event.isDiscarded = discardedFirst frames := by
  induction frames with
  | nil => rfl
  | cons frame rest ih =>
    cases frame with
    | request r => rfl
    | discarded =>
      have hcons : eventsOf (takingSteps peer (.discarded :: rest)) =
        .discarded peer :: eventsOf (takingSteps peer rest) := rfl
      rw [hcons, List.countP_cons, ih]
      rfl

theorem count_flush_takingSteps (peer : String) (frames : List Frame) :
    (takingSteps peer frames).count .flush = 0 := by
  induction frames with
  | nil => rfl
  | cons frame rest ih =>
    cases frame with
    | request r => rfl
    | discarded => rw [takingSteps, List.count_cons, ih]; rfl

theorem Summary.Tallies.append {summary next : Summary} {steps : List Step}
    (h : summary.Tallies steps) {more : List Step}
    (hanswered : next.answered = summary.answered + more.count .flush)
    (hdiscarded : next.discarded =
      summary.discarded + (eventsOf more).countP Event.isDiscarded)
    (hread : next.bytesRead = summary.bytesRead + readSize more) : next.Tallies (steps ++ more) where
  answered := by rw [List.count_append, hanswered, h.answered]
  discarded := by rw [eventsOf_append, List.countP_append, hdiscarded, h.discarded]
  bytesRead := by rw [readSize_append, hread, h.bytesRead]

theorem Session.receive_tallies {s : Session} {steps : List Step} (h : s.summary.Tallies steps)
    (bytes : List UInt8) : (s.receive bytes).2.summary.Tallies (steps ++ (s.receive bytes).1) := by
  have hsummary : (s.receive bytes).2.summary =
      { s.summary with
        bytesRead := s.summary.bytesRead + bytes.length
        discarded := s.summary.discarded +
          discardedFirst (s.framer.push (s.decoder.feed bytes).1).1 } := by
    simp only [Session.receive, Session.handle_session]
  have hread := s.receive_readSize bytes
  rw [hsummary]
  rw [s.receive_steps] at hread ⊢
  refine h.append ?_ ?_ ?_
  · split_ifs <;> simp [count_flush_takingSteps]
  · rw [← countP_takingSteps s.peer]
    split_ifs <;> rfl
  · rw [hread]

theorem Session.sent_tallies {s : Session} {steps : List Step} (h : s.summary.Tallies steps)
    (line : Line) (rest : List Frame) :
    (s.sent line rest).2.summary.Tallies (steps ++ (s.sent line rest).1) := by
  have hsummary : (s.sent line rest).2.summary =
      { s.summary with
        answered := s.summary.answered + 1
        failures := s.summary.failures + (if line.isFailure then 1 else 0)
        discarded := s.summary.discarded + discardedFirst rest } := by
    simp only [Session.sent, Session.handle_session]
  rw [hsummary]
  refine h.append ?_ ?_ ?_
  · rw [s.sent_steps]
    simp [count_flush_takingSteps]
  · rw [s.sent_steps, ← countP_takingSteps s.peer]
    rfl
  · rw [s.sent_readSize]
    rfl

theorem Session.close_tallies {s : Session} {steps : List Step} (h : s.summary.Tallies steps) :
    s.close.2.summary.Tallies (steps ++ s.close.1) := by
  obtain ⟨summary, bytes, character, -, hsteps⟩ := s.exists_close
  rw [hsteps]
  refine h.append ?_ ?_ ?_
  · cases bytes <;> cases character <;> rfl
  · rw [eventsOf_closingSteps]
    rfl
  · rw [← hsteps, s.close_readSize]
    rfl

theorem Session.Transition.tallies {v : Service} {earlier : List Call} {c left : Connection}
    {s next : Session} {steps more : List Step} (hstep : Transition v earlier c s more left next)
    (h : s.summary.Tallies steps) : next.summary.Tallies (steps ++ more) := by
  cases hstep with
  | closed hp hread => exact Session.close_tallies h
  | received hp hne hread => exact Session.receive_tallies h _
  | @answered r rest reply hp hreply =>
    refine h.append rfl ?_ rfl
    cases reply <;> rfl
  | flushed hp hflush => exact Session.sent_tallies h _ _
  | _ => exact h.append rfl rfl rfl

theorem tallies_moment (v : Service) (peer : String) (c : Connection) (n : ℕ) :
    (v.moment peer c n).session.summary.Tallies (v.moment peer c n).steps := by
  induction n with
  | zero => exact ⟨rfl, rfl, rfl⟩
  | succ n ih =>
    obtain ⟨steps, left, s, hstep, hnext⟩ := (v.moment peer c n).exists_transition v
    rw [v.moment_succ, hnext]
    exact hstep.tallies ih

end PromptRelay
