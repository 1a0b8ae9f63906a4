import Mathlib.Data.Set.List
import PromptRelay.Proofs.ChatService.Requests
import PromptRelay.Proofs.Json.Records
import PromptRelay.Proofs.Line.FailureMark
import PromptRelay.Proofs.Line.Terminator
import PromptRelay.Proofs.Text.Cutting

namespace PromptRelay.ChatService

open Json (Yields)

def choice (content : Option String) : Json :=
  .object [("message", .object [("content", content.elim .null .string)])]

def completion (contents : List (Option String)) : Json :=
  .object [("choices", .array (contents.map choice))]

def apiError (message : String) : Json :=
  .object [("error", .object [("message", .string message)])]

theorem yields_content : Yields (Json.Shape.read (.option .string)) fun v =>
    ∃ content : Option String, v = content.elim .null .string := by
  intro k v k' hread
  obtain rfl | ⟨s, rfl⟩ := Json.yields_option Json.yields_string hread
  · exact ⟨none, rfl⟩
  · exact ⟨some s, rfl⟩

theorem yields_choices : Yields completionShape.read fun v => ∃ x, v = .object [("choices", x)] ∧
    ∃ choices, x = .array choices ∧ ∀ y ∈ choices, ∃ z, y = .object [("message", z)] ∧
      ∃ c, z = .object [("content", c)] ∧ ∃ content : Option String,
        c = content.elim .null .string := by
  apply Json.yields_singleton
  · apply Json.yields_list
    apply Json.yields_singleton
    · apply Json.yields_singleton yields_content
      rintro v ⟨⟩
      exact ⟨none, rfl⟩
    · exact nofun
  · rintro v ⟨⟩
    exact ⟨[], rfl, List.forall_mem_nil _⟩

theorem parse_completion {body : String} {v : Json} (h : completionShape.parse body = .ok v) :
    ∃ contents, v = completion contents := by
  obtain ⟨x, rfl, choices, rfl, hchoices⟩ := yields_choices.parse h
  have hrange : choices ∈ Set.range (List.map choice) := by
    rw [Set.range_list_map]
    intro y hy
    obtain ⟨z, rfl, c, rfl, content, rfl⟩ := hchoices y hy
    exact ⟨content, rfl⟩
  obtain ⟨contents, rfl⟩ := hrange
  exact ⟨contents, rfl⟩

theorem completionText?_completion (contents : List (Option String)) :
    completionText? (completion contents) = contents.head?.join := by
  rcases contents with - | ⟨- | s, contents⟩ <;> rfl

theorem parse_apiError {body : String} {v : Json} (h : errorShape.parse body = .ok v) :
    ∃ message, v = apiError message := by
  have hyields : Yields errorShape.read fun v => ∃ x, v = .object [("error", x)] ∧
      ∃ y, x = .object [("message", y)] ∧ ∃ s, y = .string s := by
    apply Json.yields_singleton
    · exact Json.yields_singleton Json.yields_string nofun
    · exact nofun
  obtain ⟨x, rfl, y, rfl, s, rfl⟩ := hyields.parse h
  exact ⟨s, rfl⟩

theorem isSuccess_iff (status : ℕ) :
    Http.Status.isSuccess status = true ↔ 200 ≤ status ∧ status < 300 := by
  simp [Http.Status.isSuccess]

theorem isRefusal_iff (status : ℕ) :
    Http.Status.isRefusal status = true ↔ status = 401 ∨ status = 403 := by
  simp [Http.Status.isRefusal]

theorem replyOf_of_success {status : ℕ} (h : Http.Status.isSuccess status = true) (body : String) :
    replyOf status body = match completionShape.parse body with
      | .error e => .failure ("malformed response: " ++ e.message)
      | .ok v => match completionText? v with
        | some s => .text s
        | none => .failure "malformed response: no message content" := by
  rw [replyOf, h]
  rfl

theorem replyOf_of_not_success {status : ℕ} (h : Http.Status.isSuccess status = false)
    (body : String) : replyOf status body = .failure (refusal status body) := by
  rw [replyOf, h]
  rfl

theorem replyOf_eq_text_iff (status : ℕ) (body t : String) :
    replyOf status body = .text t ↔
      (200 ≤ status ∧ status < 300) ∧
        ∃ later, completionShape.parse body = .ok (completion (some t :: later)) := by
  rw [← isSuccess_iff]
  cases hsuccess : Http.Status.isSuccess status with
  | false => simp [replyOf_of_not_success hsuccess]
  | true =>
    rw [replyOf_of_success hsuccess]
    cases hparse : completionShape.parse body with
    | error e => simp
    | ok v =>
      obtain ⟨contents, rfl⟩ := parse_completion hparse
      dsimp only
      rw [completionText?_completion]
      rcases contents with - | ⟨- | s, contents⟩ <;> simp [completion, choice]

theorem malformed_of_failure {status : ℕ} (h : 200 ≤ status ∧ status < 300) {body cause : String}
    (hreply : replyOf status body = .failure cause) :
    "malformed response: ".toList <+: cause.toList := by
  rw [replyOf_of_success ((isSuccess_iff status).mpr h)] at hreply
  split at hreply
  · obtain rfl := Reply.failure.inj hreply
    rw [String.toList_append]
    exact List.prefix_append _ _
  · split at hreply
    · cases hreply
    · obtain rfl := Reply.failure.inj hreply
      decide

inductive Says (body words : String) : Prop
  | message (h : errorShape.parse body = .ok (apiError words))
  | quote (h : ∀ v, errorShape.parse body ≠ .ok v)
      (cut : Text.IsCut 120 (Unicode.trim body.toList) words.toList)

theorem says_detail (body : String) : Says body (detail body) := by
  unfold detail
  cases hparse : errorShape.parse body with
  | ok v =>
    obtain ⟨message, rfl⟩ := parse_apiError hparse
    exact .message hparse
  | error e =>
    refine .quote (by simp [hparse]) ?_
    have hroom : 3 ≤ quoteSize := by decide
    have hcut := Text.isCut_truncate hroom (String.ofList (Unicode.trim body.toList))
    rwa [String.toList_ofList] at hcut

/-- The cause of a refusal is a head with its code and, if its body says something, a colon and what
it says. -/
structure TellsRefusal (status : ℕ) (words cause : String) : Prop where
  form : ∃ head : String, (toString status).toList <:+: head.toList ∧ ':' ∉ head.toList ∧
    cause = if words = "" then head else head ++ ": " ++ words
  authentication : "authentication failed".toList <+: cause.toList ↔ status = 401 ∨ status = 403

theorem colon_not_mem_reasons : ∀ r ∈ Http.Status.reasons, ':' ∉ r.2.toList := by
  decide +kernel

theorem colon_not_mem_reason (status : ℕ) : ':' ∉ (Http.Status.reason status).toList := by
  unfold Http.Status.reason
  cases hlookup : Http.Status.reasons.lookup status with
  | none => decide
  | some s =>
    have hmem := mem_of_lookup hlookup
    rw [Option.getD_some]
    exact colon_not_mem_reasons (status, s) hmem

theorem colon_not_mem_toString (n : ℕ) : ':' ∉ (toString n).toList := by
  rw [Nat.toString_eq_repr, Nat.toList_repr]
  intro hmem
  have hdigit := Nat.isDigit_of_mem_toDigits (by decide) (by decide) hmem
  cases hdigit

theorem exists_head {status : ℕ} {before after words cause : String} (hbefore : ':' ∉ before.toList)
    (hafter : ':' ∉ after.toList)
    (hcause : cause =
      before ++ toString status ++ after ++ if words = "" then "" else ": " ++ words) :
    ∃ head : String, (toString status).toList <:+: head.toList ∧ ':' ∉ head.toList ∧
      cause = if words = "" then head else head ++ ": " ++ words := by
  refine ⟨before ++ toString status ++ after, ?code, ?colon, ?cause⟩
  case code =>
    rw [String.toList_append, String.toList_append]
    exact ⟨_, _, rfl⟩
  case colon =>
    simp only [String.toList_append, List.mem_append, not_or]
    exact ⟨⟨hbefore, colon_not_mem_toString status⟩, hafter⟩
  case cause =>
    rw [hcause]
    split_ifs
    · rw [String.append_empty]
    · simp only [String.append_assoc]

theorem tellsRefusal_of_isRefusal {status : ℕ} (h : Http.Status.isRefusal status = true)
    (body : String) : TellsRefusal status (detail body) (refusal status body) := by
  have hcause : refusal status body = "authentication failed (HTTP " ++ toString status ++ ")" ++
      if detail body = "" then "" else ": " ++ detail body := by
    rw [refusal, if_pos h]
    simp only [← String.append_assoc]
    rfl
  refine ⟨exists_head (by decide) (by decide) hcause, iff_of_true ?_ ((isRefusal_iff status).mp h)⟩
  have hhead : "authentication failed (HTTP ".toList =
      "authentication failed".toList ++ " (HTTP ".toList := by decide +kernel
  rw [hcause]
  simp only [String.toList_append, List.append_assoc, hhead]
  exact List.prefix_append _ _

theorem tellsRefusal_of_not_isRefusal {status : ℕ} (h : Http.Status.isRefusal status = false)
    (body : String) : TellsRefusal status (detail body) (refusal status body) := by
  have hreason : ':' ∉ (" " ++ Http.Status.reason status).toList := by
    simp [colon_not_mem_reason status]
  have hcause : refusal status body = "HTTP " ++ toString status ++
      (if detail body = "" then " " ++ Http.Status.reason status else "") ++
        if detail body = "" then "" else ": " ++ detail body := by
    rw [refusal, h, if_neg Bool.false_ne_true]
    split_ifs <;> simp only [String.append_assoc, String.append_empty]
  refine ⟨exists_head (by decide) ?_ hcause, iff_of_false ?_ ?_⟩
  · split_ifs
    · exact hreason
    · decide
  · rw [hcause]
    simp only [String.toList_append, List.append_assoc]
    rintro ⟨rest, hrest⟩
    cases hrest
  · rw [← isRefusal_iff, h]
    exact Bool.false_ne_true

theorem tellsRefusal_refusal (status : ℕ) (body : String) :
    TellsRefusal status (detail body) (refusal status body) := by
  cases h : Http.Status.isRefusal status with
  | true => exact tellsRefusal_of_isRefusal h body
  | false => exact tellsRefusal_of_not_isRefusal h body

example : refusal 403 " " = "authentication failed (HTTP 403)" ∧
    refusal 502 " busy " = "HTTP 502: busy" := by
  decide +kernel

def answered (r : ChatService) (exchange : Http.Exchange) (c : Call) :
    Except Http.TransportError (ℕ × String) := do
  let request ← r.request c
  let (delay, result) := exchange request
  if r.timeout < delay then throw .late
  let response ← result
  return (response.status, bodyText response)

theorem answered_eq_ok_iff {r : ChatService} {exchange : Http.Exchange} {c : Call} {status : ℕ}
    {body : String} :
    r.answered exchange c = .ok (status, body) ↔
      ∃ q delay response, r.request c = .ok q ∧ exchange q = (delay, .ok response) ∧
        delay ≤ r.timeout ∧ response.status = status ∧ bodyText response = body := by
  unfold answered
  cases hrequest : r.request c with
  | error e => simp [bind, Except.bind]
  | ok q =>
    obtain ⟨delay, result, hexchange⟩ : ∃ delay result, exchange q = (delay, result) := ⟨_, _, rfl⟩
    by_cases hlate : r.timeout < delay
    · simp [hexchange, hlate, bind, Except.bind, throw, throwThe, MonadExceptOf.throw]
    · cases result with
      | error e => simp [hexchange, hlate, bind, Except.bind]
      | ok response =>
        simp [hexchange, hlate, Nat.le_of_not_lt hlate, bind, Except.bind, pure, Except.pure]

theorem complete_reply (r : ChatService) (exchange : Http.Exchange) (c : Call) :
    (r.complete exchange c).2 = match r.answered exchange c with
      | .error e => .failure e.message
      | .ok (status, body) => replyOf status body := by
  unfold complete answered
  cases r.request c with
  | error e => rfl
  | ok request =>
    dsimp only [bind, Except.bind]
    split_ifs with hlate
    · rfl
    · cases (exchange request).2 <;> rfl

structure Classified (came : Except Http.TransportError (ℕ × String)) (reply : Reply) : Prop where
  text : ∀ t, reply = .text t ↔ ∃ status body later, came = .ok (status, body) ∧
    (200 ≤ status ∧ status < 300) ∧
      completionShape.parse body = .ok (completion (some t :: later))
  transport : ∀ e, came = .error e → reply = .failure e.message
  malformed : ∀ status body cause, came = .ok (status, body) → 200 ≤ status ∧ status < 300 →
    reply = .failure cause → "malformed response: ".toList <+: cause.toList
  refused : ∀ status body, came = .ok (status, body) → ¬(200 ≤ status ∧ status < 300) →
    ∃ words cause, reply = .failure cause ∧ Says body words ∧ TellsRefusal status words cause
  line : ∀ cause, reply = .failure cause → reply.line.isFailure = true ∧
    (∀ c ∈ reply.line.text.toList, isBreak c = false) ∧
      ∃ front, reply.line.bytes = front ++ [0x0A] ∧ 0x0A ∉ front

theorem failure_line (cause : String) :
    (Reply.failure cause).line.isFailure = true ∧
      (∀ c ∈ (Reply.failure cause).line.text.toList, isBreak c = false) ∧
        ∃ front, (Reply.failure cause).line.bytes = front ++ [0x0A] ∧ 0x0A ∉ front := by
  have htext : (Reply.failure cause).line.text.toList =
      normalize (Line.failureMark ++ " " ++ cause).toList := String.toList_ofList
  refine ⟨Line.ofFailure_isFailure cause, ?_, _, rfl, ?_⟩
  · rw [htext]
    exact normalize_not_isBreak _
  · rw [htext]
    exact Utf8.newline_not_mem_encode (newline_not_mem_normalize _)

theorem classified_replyOf (status : ℕ) (body : String) :
    Classified (.ok (status, body)) (replyOf status body) where
  text t := by
    rw [replyOf_eq_text_iff]
    constructor
    · rintro ⟨hsuccess, later, hparse⟩
      exact ⟨status, body, later, rfl, hsuccess, hparse⟩
    · rintro ⟨_, _, later, hcame, hsuccess, hparse⟩
      obtain ⟨rfl, rfl⟩ := Prod.mk.inj (Except.ok.inj hcame)
      exact ⟨hsuccess, later, hparse⟩
  transport := nofun
  malformed := by
    intro _ _ cause hcame hsuccess hreply
    obtain ⟨rfl, rfl⟩ := Prod.mk.inj (Except.ok.inj hcame)
    exact malformed_of_failure hsuccess hreply
  refused := by
    intro _ _ hcame hsuccess
    obtain ⟨rfl, rfl⟩ := Prod.mk.inj (Except.ok.inj hcame)
    rw [← isSuccess_iff, Bool.not_eq_true] at hsuccess
    exact ⟨detail body, refusal status body, replyOf_of_not_success hsuccess body, says_detail body,
      tellsRefusal_refusal status body⟩
  line := by
    intro cause hreply
    rw [hreply]
    exact failure_line cause

theorem classified_failure (e : Http.TransportError) :
    Classified (.error e) (.failure e.message) where
  text t := ⟨nofun, nofun⟩
  transport := by
    rintro - ⟨⟩
    rfl
  malformed := nofun
  refused := nofun
  line := by
    rintro cause ⟨⟩
    exact failure_line e.message

theorem answer_classified (r : ChatService) (exchange : Http.Exchange) (earlier : List Call)
    (c : Call) :
    ∃ reply, ((r.backend exchange).answer earlier c).outcome = .ok reply ∧
      Classified (r.answered exchange c) reply := by
  refine ⟨(r.complete exchange c).2, rfl, ?_⟩
  rw [complete_reply]
  cases r.answered exchange c with
  | error e => exact classified_failure e
  | ok answer => exact classified_replyOf answer.1 answer.2

def greeted : ChatService where
  endpoint := "http://127.0.0.1/v1/chat/completions"
  model := "m"
  key := "k"
  timeout := 30

def greeting : Call where
  query := "hello"
  systemPrompt := ""
  sampling := {}

def greetingBack : String :=
  "\x7b\"choices\":[\x7b\"message\":\x7b\"content\":\"hi\"\x7d\x7d]\x7d"

def greets : Http.Exchange := fun _ =>
  (30, .ok { status := 200, body := Utf8.encode greetingBack.toList })

theorem answer_classified_completion :
    ((greeted.backend greets).answer [] greeting).outcome = .ok (.text "hi") ∧
      Classified (greeted.answered greets greeting) (.text "hi") := by
  obtain ⟨reply, hreply, hclassified⟩ := answer_classified greeted greets [] greeting
  have hweb : IsWebAddress greeted.endpoint := by
    refine ⟨{ scheme := "http", host := some "127.0.0.1", path := "/v1/chat/completions" },
      ?_, ?_, ?_⟩ <;> decide +kernel
  obtain ⟨q, hsent⟩ := (exists_request_iff greeted greeting).mpr ⟨hweb, by decide⟩
  have hcame : greeted.answered greets greeting = .ok (200, greetingBack) :=
    answered_eq_ok_iff.mpr ⟨q, 30, _, hsent, rfl, le_rfl, rfl, by decide +kernel⟩
  have hparse : completionShape.parse greetingBack = .ok (completion [some "hi"]) := rfl
  obtain rfl : reply = .text "hi" :=
    (hclassified.text "hi").mpr ⟨200, greetingBack, [], hcame, by decide, hparse⟩
  exact ⟨hreply, hclassified⟩

end PromptRelay.ChatService
