import PromptRelay.Line
import PromptRelay.Proofs.Utf8.SequenceTable

namespace PromptRelay

theorem foldBreaks_not_isBreak (s : List Char) : ∀ c ∈ foldBreaks s, isBreak c = false := by
  have hspace : isBreak ' ' = false := by decide
  induction s using foldBreaks.induct with
  | case1 => exact nofun
  | case2 s ih =>
    rw [foldBreaks, List.forall_mem_cons]
    exact ⟨hspace, ih⟩
  | case3 c s hreturn ih =>
    rw [foldBreaks, List.forall_mem_cons]
    · refine ⟨?_, ih⟩
      by_cases hc : isBreak c = true
      · rw [if_pos hc]
        exact hspace
      · rw [if_neg hc]
        exact eq_false_of_ne_true hc
    · exact hreturn

theorem trim_subset (s : List Char) : Unicode.trim s ⊆ s := by
  intro c hc
  unfold Unicode.trim Unicode.trimEnd Unicode.trimStart at hc
  rw [List.mem_reverse] at hc
  have hstart := (List.dropWhile_sublist _).subset hc
  rw [List.mem_reverse] at hstart
  exact (List.dropWhile_sublist _).subset hstart

theorem normalize_not_isBreak (s : List Char) : ∀ c ∈ normalize s, isBreak c = false :=
  fun c hc => foldBreaks_not_isBreak _ c (trim_subset _ hc)

theorem newline_not_mem_normalize (s : List Char) : '\n' ∉ normalize s := by
  intro hmem
  have hbreak : isBreak '\n' = true := by decide
  rw [normalize_not_isBreak s '\n' hmem] at hbreak
  cases hbreak

namespace Utf8

theorem eq_newline_of_mem {c : Char} (h : 0x0A ∈ String.utf8EncodeChar c) : c = '\n' := by
  have hbyte (n : ℕ) : 0x0A = UInt8.ofNat n ↔ n % 256 = 10 := by
    rw [← UInt8.toNat_inj, UInt8.toNat_ofNat', eq_comm]
    rfl
  rw [utf8EncodeChar_eq] at h
  split_ifs at h with hone htwo hthree
  · rw [List.mem_singleton, hbyte] at h
    have hnat : c.toNat = '\n'.toNat := by
      show c.toNat = 10
      omega
    exact Char.toNat_inj.mp hnat
  all_goals
    simp only [List.mem_cons, List.not_mem_nil, or_false, hbyte] at h
    omega

theorem newline_not_mem_encode {s : List Char} (h : '\n' ∉ s) : 0x0A ∉ encode s := by
  intro hmem
  obtain ⟨c, hc, hbyte⟩ := List.mem_flatMap.mp hmem
  rw [eq_newline_of_mem hbyte] at hc
  exact h hc

end Utf8

theorem splitOn_lines {lines : List (List UInt8)} (h : ∀ line ∈ lines, 0x0A ∉ line) :
    (lines.flatMap (· ++ [0x0A])).splitOn 0x0A = lines ++ [[]] := by
  induction lines with
  | nil => rfl
  | cons line lines ih =>
    rw [List.forall_mem_cons] at h
    rw [List.flatMap_cons, List.append_assoc, List.singleton_append,
      List.splitOn_append_cons_self_of_not_mem h.1, ih h.2, List.cons_append]

end PromptRelay
