import PromptRelay.Proofs.Session.Counters
import PromptRelay.Proofs.Session.Delivery
import PromptRelay.Proofs.Session.Uptake

namespace PromptRelay

def askedTexts (s : List Char) : List (List Char) :=
  (endedLines s).filterMap afterMark?

def Event.isAnswer : Event → Bool
  | .reply _ _ _ => true
  | .failure _ _ _ => true
  | _ => false

def Event.isClosing : Event → Bool
  | .sessionClosed _ _ => true
  | _ => false

section Texts

variable (s : List Char)

theorem lineFrames_eq_map : lineFrames s = (askedTexts s).map fun raw =>
    if raw.all Unicode.isWhiteSpace then .discarded
    else .request ⟨String.ofList (Unicode.trim raw)⟩ := by
  rw [lineFrames, askedTexts, List.map_filterMap]
  rfl

theorem count_discarded_lineFrames : (lineFrames s).count .discarded =
    (askedTexts s).countP fun raw => raw.all Unicode.isWhiteSpace := by
  rw [lineFrames_eq_map, List.count, List.countP_map]
  congr 1
  funext raw
  show ((if raw.all Unicode.isWhiteSpace then Frame.discarded else _) == .discarded) = _
  cases raw.all Unicode.isWhiteSpace <;> rfl

theorem length_lineQueries : (lineQueries s).length =
    (askedTexts s).countP fun raw => !raw.all Unicode.isWhiteSpace := by
  have hqueries : lineQueries s = (askedTexts s).filterMap fun raw =>
    if raw.all Unicode.isWhiteSpace then none else some (String.ofList (Unicode.trim raw)) := rfl
  rw [hqueries, List.length_filterMap_eq_countP]
  congr 1
  funext raw
  cases raw.all Unicode.isWhiteSpace <;> rfl

end Texts

theorem count_discarded_framesOf (events : List Event) :
    (framesOf events).count .discarded = events.countP Event.isDiscarded := by
  induction events with
  | nil => rfl
  | cons e events ih =>
    have hcons : framesOf (e :: events) = framesOf [e] ++ framesOf events :=
      framesOf_append [e] events
    rw [hcons, List.count_append, ih, List.countP_cons, Nat.add_comm]
    cases e <;> rfl

theorem Dealings.counts {peer : String} {events : List Event} (h : Dealings peer events) :
    events.countP Event.isAnswer = (queriesOf events).length ∧
      events.filter Event.isClosing = [] := by
  induction h with
  | nil => exact ⟨rfl, rfl⟩
  | discarded h ih =>
    rw [List.countP_append, queriesOf_append, List.filter_append, List.length_append, ih.1, ih.2]
    exact ⟨rfl, rfl⟩
  | replied h query line elapsed ih =>
    rw [List.countP_append, queriesOf_append, List.filter_append, List.length_append, ih.1, ih.2]
    exact ⟨rfl, rfl⟩
  | failed h query cause elapsed ih =>
    rw [List.countP_append, queriesOf_append, List.filter_append, List.length_append, ih.1, ih.2]
    exact ⟨rfl, rfl⟩

section Totals

variable {v : Service} {peer : String} {calls : List Call} {steps : List Step}

theorem Exchanges.count_flush (h : Exchanges v calls steps) :
    steps.count .flush = calls.length := by
  induction h with
  | nil => rfl
  | @snoc earlier steps call reply writes h hreply hwrites ih =>
    have hwritten : (writes.map Step.write).count .flush = 0 := by
      simp [List.count_eq_zero]
    rw [List.count_append, ih, List.count_cons, List.count_append, hwritten]
    rfl

theorem count_flush_exchangeOf (steps : List Step) :
    (exchangeOf steps).count .flush = steps.count .flush :=
  List.count_filter rfl

theorem count_newline_lines {lines : List (List UInt8)} (h : ∀ line ∈ lines, 0x0A ∉ line) :
    (lines.flatMap (· ++ [0x0A])).count 0x0A = lines.length := by
  induction lines with
  | nil => rfl
  | cons line lines ih =>
    rw [List.forall_mem_cons] at h
    rw [List.flatMap_cons, List.count_append, List.count_append, ih h.2,
      List.count_eq_zero_of_not_mem h.1, List.length_cons]
    exact Nat.add_comm _ _

theorem Service.length_wireTexts (v : Service) (earlier calls : List Call) :
    (v.wireTexts earlier calls).length = calls.length := by
  induction calls generalizing earlier with
  | nil => rfl
  | cons call calls ih => exact congrArg (· + 1) (ih _)

theorem Service.count_newline_lines (v : Service) (calls : List Call) :
    (v.lines calls).flatten.count 0x0A = calls.length := by
  have hlines : (v.lines calls).flatten =
      ((v.wireTexts [] calls).map Utf8.encode).flatMap (· ++ [0x0A]) := by
    rw [lines, List.flatMap_map, List.flatMap]
  rw [hlines, PromptRelay.count_newline_lines (v.newline_not_mem_wireTexts [] calls),
    List.length_map, v.length_wireTexts]

theorem length_callsFor (d : Dispatch) (bytes : List UInt8) : (d.callsFor bytes).length =
    (askedTexts (Utf8.lenient bytes).1).countP fun raw => !raw.all Unicode.isWhiteSpace := by
  rw [Dispatch.callsFor, List.length_map, length_lineQueries]

theorem events_of_chronicled {summary : Summary}
    (h : (Phase.ended (.ok summary)).Chronicled v peer calls steps) :
    (eventsOf steps).countP Event.isAnswer = calls.length ∧
      (eventsOf steps).filter Event.isClosing = [.sessionClosed peer summary] := by
  obtain ⟨⟨dealings, ending, hdealings, hending, hevents⟩, hqueries⟩ := transcript_of_chronicled h
  obtain rfl : ending = [.sessionClosed peer summary] := hending
  obtain ⟨hanswers, hclosing⟩ := hdealings.counts
  have hopened : queriesOf (eventsOf steps) = queriesOf dealings := by
    rw [hevents, ← List.cons_append, queriesOf_append]
    exact List.append_nil _
  have hlength : (queriesOf dealings).length = calls.length := by
    rw [← hopened, hqueries, List.length_map, List.length_reverse]
  rw [hevents, List.countP_cons, List.countP_append, hanswers, hlength, List.filter_cons,
    List.filter_append, hclosing]
  exact ⟨rfl, rfl⟩

variable {c : Connection} {summary : Summary}

theorem exists_moment_of_ok (h : (v.serve peer c).2 = .ok summary) :
    ∃ n, (v.moment peer c n).steps = (v.serve peer c).1 ∧
      (v.moment peer c n).session.phase = .ended (.ok summary) ∧
      Accounts v c (c.stream.take (readSize (v.serve peer c).1)) (v.moment peer c n) := by
  obtain ⟨n, hsteps, hended⟩ := v.exists_moment_serve peer c
  obtain ⟨bytes, haccounts⟩ := accounts_moment v peer c n
  rw [← hsteps, haccounts.take_readSize]
  rw [h] at hended
  exact ⟨n, rfl, hended, haccounts⟩

theorem calls_read_of_ok (h : (v.serve peer c).2 = .ok summary) :
    let bytes := c.stream.take (readSize (v.serve peer c).1)
    let calls := Session.callsAfter [] (v.serve peer c).1
    calls.reverse = v.dispatch.callsFor bytes ∧ (v.serve peer c).1.count .flush = calls.length ∧
      readSize (v.serve peer c).1 = bytes.length ∧
      (0 < v.dispatch.readBufferSize → bytes = c.stream) := by
  obtain ⟨n, hsteps, hended, haccounts⟩ := exists_moment_of_ok h
  obtain ⟨hleaves, howes, hstands⟩ := haccounts.inPhase hended
  have hflushes := Exchanges.count_flush hstands
  rw [count_flush_exchangeOf] at hflushes
  rw [← hsteps] at howes hleaves ⊢
  refine ⟨?_, hflushes, haccounts.size.trans ?_, fun hsize => (hleaves hsize).1.symm⟩
  · rw [← howes]
    exact (List.append_nil _).symm
  · rw [hsteps]

theorem counters_of_ok (h : (v.serve peer c).2 = .ok summary) :
    let text := (Utf8.lenient (c.stream.take (readSize (v.serve peer c).1))).1
    summary.Tallies (v.serve peer c).1 ∧
      framesOf (eventsOf (v.serve peer c).1) = lineFrames text ∧
      summary.unterminatedBytes = ((openQuery? text).map Utf8.size).getD 0 := by
  obtain ⟨n, hsteps, hended, haccounts⟩ := exists_moment_of_ok h
  obtain ⟨hfinal, hframes, hunterminated⟩ := (takesUp_moment v peer c n).inPhase hended
  have htallies := tallies_moment v peer c n
  rw [Moment.text, hsteps] at hframes hunterminated
  rw [hsteps, ← hfinal] at htallies
  exact ⟨htallies, hframes, hunterminated⟩

end Totals

theorem serve_accounts (v : Service) (peer : String) (c : Connection) :
    let (steps, result) := v.serve peer c
    ∀ summary, result = .ok summary →
      let bytes := c.stream.take (readSize steps)
      let text := (Utf8.lenient bytes).1
      let calls := Session.callsAfter [] steps
      let events := eventsOf steps
      (summary.bytesRead = bytes.length ∧ (0 < v.dispatch.readBufferSize → bytes = c.stream)) ∧
        (summary.answered = (askedTexts text).countP (fun raw => !raw.all Unicode.isWhiteSpace) ∧
          summary.answered = calls.length ∧ summary.answered = (written steps).count 0x0A ∧
          summary.answered = events.countP Event.isAnswer) ∧
        (summary.discarded = (askedTexts text).countP (fun raw => raw.all Unicode.isWhiteSpace) ∧
          summary.discarded = events.countP Event.isDiscarded) ∧
        summary.unterminatedBytes = ((openQuery? text).map Utf8.size).getD 0 ∧
        events.filter Event.isClosing = [.sessionClosed peer summary] := by
  have hrun := chronicled_serve v peer c
  have hread := @calls_read_of_ok v peer c
  have hcounters := @counters_of_ok v peer c
  have hwritten := @written_of_ok v peer c
  generalize v.serve peer c = run at hrun hread hcounters hwritten ⊢
  obtain ⟨steps, result⟩ := run
  rintro summary rfl bytes text calls events
  obtain ⟨hcalls, hflushes, hsize, hall⟩ := hread rfl
  obtain ⟨htallies, hframes, hunterminated⟩ := hcounters rfl
  obtain ⟨hanswers, hclosing⟩ := events_of_chronicled hrun
  have hanswered : summary.answered = calls.length := htallies.answered.trans hflushes
  have hasked : (askedTexts text).countP (fun raw => !raw.all Unicode.isWhiteSpace) =
      calls.length := by
    rw [← length_callsFor v.dispatch bytes, ← hcalls, List.length_reverse]
  have hnewlines : (written steps).count 0x0A = calls.length := by
    rw [hwritten rfl, v.count_newline_lines, List.length_reverse]
  have hdiscarded : (eventsOf steps).countP Event.isDiscarded =
      (askedTexts text).countP fun raw => raw.all Unicode.isWhiteSpace := by
    rw [← count_discarded_framesOf, hframes, count_discarded_lineFrames]
  refine ⟨⟨htallies.bytesRead.trans hsize, hall⟩, ⟨?_, hanswered, ?_, ?_⟩, ⟨?_, htallies.discarded⟩,
    hunterminated, hclosing⟩
  · rw [hasked, hanswered]
  · rw [hnewlines, hanswered]
  · rw [hanswers, hanswered]
  · rw [htallies.discarded, hdiscarded]

def terse : Service where
  backend :=
    { kind := .remote
      description := "terse"
      answer := fun _ _ => { outcome := .ok (.text "4\n") } }
  dispatch := {}

def untidy : Connection where
  arrivals :=
    [.bytes (Utf8.encode "AI_REQ: 2+2?\nAI_REQ: \nAI_REQ: ".toList ++ [0xC3]),
      .bytes [0xA9, 0xFF, 0xE2, 0x82]]

theorem serve_untidy :
    let (steps, result) := terse.serve "peer" untidy
    let summary : Summary :=
      { answered := 1, discarded := 1, bytesRead := 35, unterminatedBytes := 3 }
    result = .ok summary ∧ (Session.callsAfter [] steps).length = 1 ∧
      (written steps).count 0x0A = 1 ∧ (eventsOf steps).countP Event.isAnswer = 1 ∧
      (eventsOf steps).countP Event.isDiscarded = 1 ∧
      (eventsOf steps).filter Event.isClosing = [.sessionClosed "peer" summary] := by
  have hrun : terse.serve "peer" untidy =
      ((terse.moment "peer" untidy 7).steps, .ok _) := Service.serve_of_ended rfl
  have hresult : (terse.serve "peer" untidy).2 =
      .ok { answered := 1, discarded := 1, bytesRead := 35, unterminatedBytes := 3 } := by
    rw [hrun]
    rfl
  obtain ⟨-, ⟨-, hcalls, hlines, hanswers⟩, ⟨-, hdiscarded⟩, -, hclosing⟩ :=
    serve_accounts terse "peer" untidy _ hresult
  exact ⟨hresult, hcalls.symm, hlines.symm, hanswers.symm, hdiscarded.symm, hclosing⟩

end PromptRelay
