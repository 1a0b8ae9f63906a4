import PromptRelay.Proofs.Line.Ascii
import PromptRelay.Proofs.Session.Delivery
import PromptRelay.Proofs.Session.FailureCount

namespace PromptRelay

def Reply.raw : Reply → String
  | .text raw => raw
  | .failure cause => Line.failureMark ++ " " ++ cause

theorem Reply.isAscii_line (reply : Reply) : IsAscii reply.line.bytes ↔ BecomesAscii reply.raw := by
  have hline : reply.line = Line.ofReply reply.raw := by cases reply <;> rfl
  rw [hline, Line.isAscii_bytes]

def Service.RepliesAscii (v : Service) : List Call → Prop
  | [] => True
  | call :: earlier =>
    (∀ reply, v.reply earlier call = .ok reply → BecomesAscii reply.raw) ∧ v.RepliesAscii earlier

section

variable {v : Service} {peer : String} {earlier calls : List Call} {call : Call} {steps : List Step}

theorem repliesAscii_of_ok {reply : Reply} (h : v.reply earlier call = .ok reply) :
    v.RepliesAscii (call :: earlier) ↔ BecomesAscii reply.raw ∧ v.RepliesAscii earlier := by
  rw [Service.RepliesAscii, h]
  simp only [Except.ok.injEq, forall_eq']

theorem repliesAscii_of_error {fault : Fault} (h : v.reply earlier call = .error fault) :
    v.RepliesAscii (call :: earlier) ↔ v.RepliesAscii earlier := by
  rw [Service.RepliesAscii, h]
  simp only [reduceCtorEq, false_implies, implies_true, true_and]

theorem Chronicle.isAscii_written_iff (h : Chronicle v peer calls steps) :
    IsAscii (PromptRelay.written steps) ↔ v.RepliesAscii calls := by
  induction h with
  | opened => exact iff_of_true (List.forall_mem_nil _) trivial
  | read h hsize ih => rw [written_append_of_eq_nil rfl, ih]
  | echoed h text ih => rw [written_append_of_eq_nil rfl, ih]
  | discarded h ih => rw [written_append_of_eq_nil rfl, ih]
  | @replied earlier steps call reply writes h hreply hwrites ih =>
    rw [written_append, written_append, written_append_of_eq_nil rfl, written_replySteps,
      written_writes, hwrites, List.nil_append, isAscii_append, ih, reply.isAscii_line,
      repliesAscii_of_ok hreply]
    exact and_comm

theorem Replying.isAscii_written {line : Line} {left : List UInt8}
    (h : Replying v peer line left calls steps) (hascii : v.RepliesAscii calls) :
    IsAscii (PromptRelay.written steps) := by
  obtain @⟨earlier, steps, call, reply, writes, h, hreply, hline, hwrites⟩ := h
  obtain ⟨hlatest, hearlier⟩ := (repliesAscii_of_ok hreply).mp hascii
  -- What has been written of the line is part of it.
  have hall := reply.isAscii_line.mpr hlatest
  rw [hline, ← hwrites, isAscii_append] at hall
  rw [written_append, written_append, written_replySteps, written_writes, List.nil_append,
    isAscii_append]
  exact ⟨h.isAscii_written_iff.mpr hearlier, hall.1⟩

theorem Faulted.isAscii_written_iff {fault : Fault} (h : Faulted v peer fault calls steps) :
    IsAscii (PromptRelay.written steps) ↔ v.RepliesAscii calls := by
  obtain @⟨earlier, steps, call, hbefore, hreply⟩ := h
  rw [written_append_of_eq_nil rfl, hbefore.isAscii_written_iff, repliesAscii_of_error hreply]

theorem isAscii_iff_of_chronicled {result : Except SessionError Summary}
    (h : (Phase.ended result).Chronicled v peer calls steps)
    (hresult : ∀ cause, result ≠ .error (.io cause)) :
    IsAscii (written steps) ↔ v.RepliesAscii calls := by
  match result, h with
  | .ok summary, ⟨before, bytes, character, hbefore, hsteps⟩ =>
    rw [hsteps, written_append_of_eq_nil (written_closingSteps _ _ _)]
    exact hbefore.isAscii_written_iff
  | .error (.io cause), h => exact absurd rfl (hresult cause)
  | .error (.backend fault), h => exact Faulted.isAscii_written_iff h

theorem isAscii_of_chronicled {result : Except SessionError Summary}
    (h : (Phase.ended result).Chronicled v peer calls steps) (hascii : v.RepliesAscii calls) :
    IsAscii (written steps) := by
  by_cases hresult : ∀ cause, result ≠ .error (.io cause)
  · exact (isAscii_iff_of_chronicled h hresult).mpr hascii
  · -- The last line may have been cut off.
    obtain ⟨cause, hio⟩ := not_forall.mp hresult
    obtain rfl := not_not.mp hio
    rcases h with h | ⟨line, left, h⟩
    · exact h.isAscii_written_iff.mpr hascii
    · exact h.isAscii_written hascii

end

/-- A client gets ASCII if all replies become ASCII, and only then if their lines are sent whole. A
text becomes ASCII if each of its characters decomposes to ASCII, marks and line breaks. A character
that does not keeps the text from it, unless what it decomposes to is trimmed as white space. -/
theorem serve_ascii (v : Service) (peer : String) (c : Connection) :
    let (steps, result) := v.serve peer c
    let calls := Session.callsAfter [] steps
    (v.RepliesAscii calls → IsAscii (written steps)) ∧
      ((∀ cause, result ≠ .error (.io cause)) → IsAscii (written steps) → v.RepliesAscii calls) ∧
      ∀ raw : String, (IsAscii (Line.ofReply raw).bytes ↔ BecomesAscii raw) ∧
        ((∀ c ∈ raw.toList, c.toNat < 0x80) → BecomesAscii raw) ∧
        ((∀ c ∈ raw.toList, ∀ d ∈ Unicode.decompose c,
          d.toNat < 0x80 ∨ Unicode.isMark d = true ∨ isBreak d = true) → BecomesAscii raw) ∧
        (BecomesAscii raw → ∀ c ∈ raw.toList, ∀ d ∈ Unicode.decompose c,
          d.toNat < 0x80 ∨ Unicode.isMark d = true ∨ Unicode.isWhiteSpace d = true) := by
  have hrun := chronicled_serve v peer c
  generalize v.serve peer c = run at hrun ⊢
  obtain ⟨steps, result⟩ := run
  refine ⟨isAscii_of_chronicled hrun, fun hresult => (isAscii_iff_of_chronicled hrun hresult).mp,
    fun raw => ?_⟩
  exact ⟨Line.isAscii_bytes raw, becomesAscii_of_ascii, becomesAscii_of_decompose,
    fun h c hc d hd => h.decompose hc hd⟩

def typographic : Service where
  backend :=
    { kind := .remote
      description := "typographic"
      answer := fun _ _ => { outcome := .ok (.text "don\u2019t") } }
  dispatch := {}

theorem serve_typographic :
    let (steps, result) := typographic.serve "peer" oneRequest
    (∃ summary, result = .ok summary ∧ summary.answered = 1) ∧
      written steps = Utf8.encode "don\u2019t\n".toList ∧ ¬IsAscii (written steps) ∧
      ¬IsAscii (Line.ofReply "don\u2019t").bytes := by
  have hresult : (typographic.moment "peer" oneRequest 6).session.result? =
      some (.ok { answered := 1, bytesRead := 10 }) := by
    decide +kernel
  have hrun := Service.serve_of_ended (Session.result?_eq_some_iff.mp hresult)
  have hwritten : written (typographic.moment "peer" oneRequest 6).steps =
      Utf8.encode "don\u2019t\n".toList := by
    decide +kernel
  have hline : (Line.ofReply "don\u2019t").bytes = Utf8.encode "don\u2019t\n".toList := by
    decide +kernel
  have hprinted : ¬IsAscii (Utf8.encode "don\u2019t\n".toList) := by
    intro hascii
    have hmem : '\u2019' ∈ "don\u2019t\n".toList := by simp
    exact absurd ((Utf8.isAscii_encode _).mp hascii _ hmem) (by decide)
  rw [hrun]
  simp only [hwritten, hline]
  exact ⟨⟨_, rfl, rfl⟩, trivial, hprinted, hprinted⟩

end PromptRelay
