import Mathlib.Data.List.Basic
import Mathlib.Tactic.SplitIfs
import PromptRelay.Text.Lines

namespace PromptRelay.Text

def inset (n : ℕ) (s : List Char) : List Char :=
  s.flatMap fun c => if c = '\n' then '\n' :: List.replicate n ' ' else [c]

def shifted (n : ℕ) (s : List Char) : List Char :=
  if '\n' ∈ s then List.replicate n ' ' ++ inset n s else s

variable {n : ℕ} {c : Char} {s t line : List Char}

theorem inset_append (n : ℕ) (s t : List Char) : inset n (s ++ t) = inset n s ++ inset n t :=
  List.flatMap_append

theorem inset_newline (n : ℕ) (s : List Char) :
    inset n ('\n' :: s) = '\n' :: (List.replicate n ' ' ++ inset n s) :=
  rfl

theorem inset_cons_of_ne (h : c ≠ '\n') : inset n (c :: s) = c :: inset n s := by
  rw [inset, List.flatMap_cons, if_neg h]
  rfl

theorem inset_of_not_mem (h : '\n' ∉ s) : inset n s = s := by
  induction s with
  | nil => rfl
  | cons c s ih =>
    rw [List.mem_cons, not_or] at h
    rw [inset_cons_of_ne (Ne.symm h.1), ih h.2]

theorem mem_of_mem_inset (h : c ∈ inset n s) : c = ' ' ∨ c ∈ s := by
  induction s with
  | nil => cases h
  | cons d s ih =>
    by_cases hd : d = '\n'
    · subst hd
      rw [inset_newline, List.mem_cons, List.mem_append] at h
      rcases h with rfl | hspaces | hrest
      · exact .inr List.mem_cons_self
      · exact .inl (List.eq_of_mem_replicate hspaces)
      · exact (ih hrest).imp_right (List.mem_cons_of_mem _)
    · rw [inset_cons_of_ne hd, List.mem_cons] at h
      rcases h with rfl | hrest
      · exact .inr List.mem_cons_self
      · exact (ih hrest).imp_right (List.mem_cons_of_mem d)

theorem length_le_inset (n : ℕ) (s : List Char) : s.length ≤ (inset n s).length := by
  induction s with
  | nil => exact Nat.le_refl _
  | cons c s ih =>
    by_cases hc : c = '\n'
    · subst hc
      rw [inset_newline, List.length_cons, List.length_cons, List.length_append]
      omega
    · rw [inset_cons_of_ne hc, List.length_cons, List.length_cons]
      omega

theorem shifted_of_not_mem (h : '\n' ∉ s) : shifted n s = s :=
  if_neg h

theorem mem_of_mem_shifted (h : c ∈ shifted n s) : c = ' ' ∨ c ∈ s := by
  unfold shifted at h
  split_ifs at h
  · rcases List.mem_append.mp h with hspaces | hrest
    · exact .inl (List.eq_of_mem_replicate hspaces)
    · exact mem_of_mem_inset hrest
  · exact .inr h

theorem inset_zero (s : List Char) : inset 0 s = s := by
  induction s with
  | nil => rfl
  | cons c s ih =>
    by_cases hc : c = '\n'
    · rw [hc, inset_newline, List.replicate_zero, List.nil_append, ih]
    · rw [inset_cons_of_ne hc, ih]

theorem shifted_zero (s : List Char) : shifted 0 s = s := by
  rw [shifted, List.replicate_zero, List.nil_append, inset_zero, ite_self]

theorem shifted_eq_self_iff (hn : 0 < n) : shifted n s = s ↔ '\n' ∉ s := by
  refine ⟨fun h hmem => ?_, shifted_of_not_mem⟩
  have hlength := congrArg List.length h
  rw [shifted, if_pos hmem, List.length_append, List.length_replicate] at hlength
  have hle := length_le_inset n s
  omega

theorem linesFrom_ne_nil (h : line ≠ [] ∨ s ≠ []) : linesFrom line s ≠ [] := by
  induction s generalizing line with
  | nil => simpa [linesFrom] using h
  | cons c s ih =>
    rw [linesFrom]
    split_ifs
    · exact List.cons_ne_nil _ _
    · exact ih (.inl (List.cons_ne_nil c line))

theorem dropReturn_of_not_mem (h : '\r' ∉ line) : dropReturn line = line :=
  if_neg fun hlast => h (List.mem_of_getLast? hlast)

theorem intercalate_linesFrom (n : ℕ) (hline : '\r' ∉ line) (hs : '\r' ∉ s)
    (hne : line ≠ [] ∨ s ≠ []) (hend : s.getLast? ≠ some '\n') :
    ['\n'].intercalate ((linesFrom line s).map (List.replicate n ' ' ++ ·)) =
      List.replicate n ' ' ++ (line.reverse ++ inset n s) := by
  induction s generalizing line with
  | nil =>
    have hempty : line.isEmpty = false := by simpa using hne
    simp [linesFrom, hempty, inset]
  | cons c s ih =>
    rw [List.mem_cons, not_or] at hs
    have htail : s ≠ [] → s.getLast? ≠ some '\n' := by
      intro hs
      obtain ⟨d, t, rfl⟩ := List.exists_cons_of_ne_nil hs
      rwa [List.getLast?_cons_cons] at hend
    rw [linesFrom]
    split_ifs with hc
    · subst hc
      have hmore : s ≠ [] := by
        rintro rfl
        exact hend rfl
      have hrest := ih List.not_mem_nil hs.2 (.inr hmore) (htail hmore)
      have hne : linesFrom [] s ≠ [] := linesFrom_ne_nil (.inr hmore)
      obtain ⟨first, rest, hlines⟩ := List.exists_cons_of_ne_nil hne
      rw [hlines, List.map_cons] at hrest
      rw [hlines, List.map_cons, List.map_cons, List.intercalate_cons_cons, hrest,
        dropReturn_of_not_mem (by simpa using hline), inset_newline]
      simp
    · have hnext : '\r' ∉ c :: line := by simp [hs.1, hline]
      have hempty : s = [] → s.getLast? ≠ some '\n' := by
        rintro rfl
        exact nofun
      rw [ih hnext hs.2 (.inl (List.cons_ne_nil c line)) ((em (s = [])).elim hempty htail),
        inset_cons_of_ne hc]
      simp

theorem indent_eq (n : ℕ) (hreturn : '\r' ∉ s) (hne : s ≠ []) (hend : s.getLast? ≠ some '\n') :
    indent (String.ofList (List.replicate n ' ')) (String.ofList s) =
      String.ofList (List.replicate n ' ' ++ inset n s) := by
  have hlines := intercalate_linesFrom n List.not_mem_nil hreturn (.inr hne) hend
  rw [List.reverse_nil, List.nil_append] at hlines
  have hnewline : "\n".toList = ['\n'] := rfl
  rw [← String.toList_inj, String.toList_ofList, ← hlines, indent, lines,
    String.toList_intercalate, hnewline, String.toList_ofList, List.map_map]
  simp [Function.comp_def]

end PromptRelay.Text
