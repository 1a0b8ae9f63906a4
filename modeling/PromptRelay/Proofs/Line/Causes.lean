import PromptRelay.Proofs.Line.NormalForm

namespace PromptRelay

namespace Line

theorem ofFailure_text_eq (cause : String) :
    (ofFailure cause).text.toList =
      Unicode.trimEnd ((failureMark ++ " ").toList ++ spread cause.toList) := by
  have hmark : (failureMark ++ " ").toList ++ spread cause.toList =
      "ERROR".toList ++ ':' :: ' ' :: spread cause.toList := rfl
  have hcolon : Unicode.isWhiteSpace ':' = false := rfl
  rw [hmark, Unicode.trimEnd_append_cons hcolon]
  exact ofFailure_text cause

theorem ofFailure_text_eq_mark_iff (cause : String) :
    (ofFailure cause).text = failureMark ↔
      ∀ c ∈ spread cause.toList, Unicode.isWhiteSpace c = true := by
  have hspace : Unicode.isWhiteSpace ' ' = true := rfl
  rw [← String.toList_inj, ofFailure_text, List.append_right_eq_self, Unicode.trimEnd_eq_nil_iff,
    List.forall_mem_cons, and_iff_right hspace]

theorem ofFailure_not_isBreak (cause : String) :
    ∀ c ∈ (ofFailure cause).text.toList, isBreak c = false := by
  rw [ofFailure, ofReply, String.toList_ofList]
  exact normalize_not_isBreak _

theorem ofFailure_keeps_mark (cause : String) :
    (ofFailure cause).text.toList =
        Unicode.trimEnd ((failureMark ++ " ").toList ++ spread cause.toList) ∧
      failureMark.toList <+: (ofFailure cause).text.toList ∧
      (ofFailure cause).isFailure = true ∧
      (∀ c ∈ (ofFailure cause).text.toList, isBreak c = false) ∧
      (∃ front, (ofFailure cause).bytes = front ++ [0x0A] ∧ 0x0A ∉ front) ∧
      ((ofFailure cause).text = failureMark ↔
        ∀ c ∈ spread cause.toList, Unicode.isWhiteSpace c = true) := by
  have hbreak := ofFailure_not_isBreak cause
  refine ⟨ofFailure_text_eq cause, ?_, ofFailure_isFailure cause, hbreak, ⟨_, rfl, ?_⟩,
    ofFailure_text_eq_mark_iff cause⟩
  · rw [ofFailure_text]
    exact List.prefix_append _ _
  · apply Utf8.newline_not_mem_encode
    intro hmem
    have hnewline : isBreak '\n' = true := rfl
    rw [hbreak '\n' hmem] at hnewline
    cases hnewline

-- A mark that would go onto the space, a line break of two characters, and a ligature.
example : (ofFailure "\u0301\r\n\uFB01").text = "ERROR:  fi" := by decide +kernel

end Line

end PromptRelay
