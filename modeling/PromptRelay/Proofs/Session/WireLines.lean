import PromptRelay.Proofs.Line.Terminator
import PromptRelay.Proofs.Session.Exchanges

namespace PromptRelay

def written : List Step → List UInt8
  | [] => []
  | .write bs :: steps => bs ++ written steps
  | _ :: steps => written steps

theorem written_append (xs ys : List Step) : written (xs ++ ys) = written xs ++ written ys := by
  induction xs with
  | nil => rfl
  | cons x xs ih =>
    cases x with
    | write bs => rw [List.cons_append, written, written, ih, List.append_assoc]
    | _ => exact ih

theorem written_append_of_eq_nil {xs ys : List Step} (h : written ys = []) :
    written (xs ++ ys) = written xs := by
  rw [written_append, h, List.append_nil]

theorem written_exchangeOf (steps : List Step) : written (exchangeOf steps) = written steps := by
  induction steps with
  | nil => rfl
  | cons x steps ih =>
    cases x with
    | write bs => exact congrArg (bs ++ ·) ih
    | _ => exact ih

theorem written_writes (writes : List (List UInt8)) :
    written (writes.map .write) = writes.flatten := by
  induction writes with
  | nil => rfl
  | cons bs writes ih => exact congrArg (bs ++ ·) ih

def failureText (cause : String) : List Char :=
  normalize ("ERROR: " ++ cause).toList

def outcomeText : Outcome → List Char
  | .ok (.text raw) => normalize raw.toList
  | .ok (.failure cause) => failureText cause
  | .error fault => failureText fault.message

theorem newline_not_mem_outcomeText (outcome : Outcome) : '\n' ∉ outcomeText outcome := by
  unfold outcomeText
  split <;> exact newline_not_mem_normalize _

theorem failure_line_text (cause : String) :
    (Reply.failure cause).line.text.toList = failureText cause := by
  simp only [Reply.line, Line.ofFailure, Line.ofReply, String.toList_ofList, failureText]
  rfl

theorem line_text_of_replyOf {kind : BackendKind} {outcome : Outcome} {reply : Reply}
    (h : Session.replyOf kind outcome = .ok reply) :
    reply.line.text.toList = outcomeText outcome := by
  cases outcome with
  | ok answer =>
    obtain rfl : answer = reply := Except.ok.inj h
    cases answer with
    | text raw => simp only [Reply.line, Line.ofReply, String.toList_ofList, outcomeText]
    | failure cause => exact failure_line_text cause
  | error fault =>
    unfold Session.replyOf at h
    cases hpolicy : kind.policy with
    | failFast => simp [hpolicy] at h
    | replyAndContinue =>
      simp only [hpolicy, Except.ok.injEq] at h
      rw [← h]
      exact failure_line_text fault.message

namespace Service

def wireText (v : Service) (earlier : List Call) (call : Call) : List Char :=
  let answer := v.backend.answer earlier call
  match v.dispatch.timeout.filter (· < answer.delay) with
  | some limit => failureText ("backend timed out after " ++ Dispatch.secondsText limit ++ "s")
  | none => outcomeText answer.outcome

def wireTexts (v : Service) (earlier : List Call) : List Call → List (List Char)
  | [] => []
  | call :: calls => v.wireText earlier call :: v.wireTexts (call :: earlier) calls

theorem newline_not_mem_wireText (v : Service) (earlier : List Call) (call : Call) :
    '\n' ∉ v.wireText earlier call := by
  unfold wireText
  simp only
  split
  · exact newline_not_mem_normalize _
  · exact newline_not_mem_outcomeText _

theorem newline_not_mem_wireTexts (v : Service) (earlier calls : List Call) :
    ∀ line ∈ (v.wireTexts earlier calls).map Utf8.encode, 0x0A ∉ line := by
  induction calls generalizing earlier with
  | nil => exact nofun
  | cons call calls ih =>
    rw [wireTexts, List.map_cons, List.forall_mem_cons]
    exact ⟨Utf8.newline_not_mem_encode (v.newline_not_mem_wireText earlier call), ih _⟩

theorem wireTexts_concat (v : Service) (earlier calls : List Call) (call : Call) :
    v.wireTexts earlier (calls ++ [call]) =
      v.wireTexts earlier calls ++ [v.wireText (calls.reverse ++ earlier) call] := by
  induction calls generalizing earlier with
  | nil => rfl
  | cons first calls ih =>
    rw [List.cons_append, wireTexts, wireTexts, ih, List.reverse_cons, List.append_assoc]
    rfl

theorem await_of_late {d : Dispatch} {delay limit : ℕ} (outcome : Outcome)
    (h : d.timeout.filter (· < delay) = some limit) :
    d.await delay outcome = .ok (Dispatch.timeoutReply limit) := by
  obtain ⟨hlimit, hlate⟩ := Option.filter_eq_some_iff.mp h
  unfold Dispatch.await
  rw [hlimit]
  exact if_pos (of_decide_eq_true hlate)

theorem await_of_in_time {d : Dispatch} {delay : ℕ} (outcome : Outcome)
    (h : d.timeout.filter (· < delay) = none) : d.await delay outcome = outcome := by
  unfold Dispatch.await
  cases hlimit : d.timeout with
  | none => rfl
  | some limit =>
    rw [hlimit, Option.filter_some] at h
    split_ifs at h with hlate
    exact if_neg (by simpa using hlate)

theorem line_text {v : Service} {earlier : List Call} {call : Call} {reply : Reply}
    (h : v.reply earlier call = .ok reply) :
    reply.line.text.toList = v.wireText earlier call := by
  have houtcome := line_text_of_replyOf h
  simp only [ask] at houtcome
  rw [houtcome, wireText]
  cases hlate : v.dispatch.timeout.filter (· < (v.backend.answer earlier call).delay) with
  | some limit => simp only [await_of_late _ hlate, Dispatch.timeoutReply, outcomeText]
  | none => simp only [await_of_in_time _ hlate]

end Service

theorem Exchanges.written {v : Service} {calls : List Call} {steps : List Step}
    (h : Exchanges v calls steps) :
    PromptRelay.written steps =
      ((v.wireTexts [] calls.reverse).map Utf8.encode).flatMap (· ++ [0x0A]) := by
  induction h with
  | nil => rfl
  | @snoc earlier steps call reply writes h hreply hwrites ih =>
    have hline : reply.line.bytes = Utf8.encode (v.wireText earlier call) ++ [0x0A] := by
      rw [← Service.line_text hreply]
      rfl
    have hlast : PromptRelay.written (.call call :: (writes.map .write ++ [.flush])) =
        Utf8.encode (v.wireText earlier call) ++ [0x0A] := by
      show PromptRelay.written (writes.map .write ++ [.flush]) = _
      rw [written_append, written_writes, hwrites, hline]
      exact List.append_nil _
    rw [written_append, ih, hlast, List.reverse_cons, Service.wireTexts_concat, List.reverse_reverse,
      List.append_nil, List.map_append, List.flatMap_append]
    simp

end PromptRelay
