import Mathlib.Data.List.Perm.Basic
import Mathlib.Tactic.SplitIfs

namespace PromptRelay

variable {α : Type} {n name : String} {v : α} {ms xs ys : List (String × α)}

theorem lookup_cons_if (n name : String) (v : α) (rest : List (String × α)) :
    ((name, v) :: rest).lookup n = if n = name then some v else rest.lookup n := by
  rw [List.lookup_cons]
  by_cases h : n = name
  · rw [h, beq_self_eq_true, if_pos rfl]
  · rw [beq_false_of_ne h, if_neg h]

theorem lookup_eq_none_of_not_mem (h : n ∉ ms.map Prod.fst) : ms.lookup n = none := by
  rw [List.lookup_eq_none_iff]
  intro m hm
  have hne : n ≠ m.1 := by
    rintro rfl
    exact h (List.mem_map_of_mem hm)
  simpa using hne

theorem mem_of_lookup {κ : Type} [BEq κ] [LawfulBEq κ] {k : κ} {table : List (κ × α)}
    (h : table.lookup k = some v) : (k, v) ∈ table := by
  obtain ⟨before, after, rfl, -⟩ := List.lookup_eq_some_iff.mp h
  exact List.mem_append_right _ List.mem_cons_self

theorem lookup_of_mem (hdistinct : (ms.map Prod.fst).Nodup) (h : (n, v) ∈ ms) :
    ms.lookup n = some v := by
  induction ms with
  | nil => cases h
  | cons m ms ih =>
    obtain ⟨name, w⟩ := m
    rw [List.map_cons, List.nodup_cons] at hdistinct
    rw [lookup_cons_if]
    rcases List.mem_cons.mp h with heq | hmem
    · obtain ⟨rfl, rfl⟩ := Prod.mk.inj heq
      rw [if_pos rfl]
    · have hne : n ≠ name := by
        rintro rfl
        exact hdistinct.1 (List.mem_map.mpr ⟨(n, v), hmem, rfl⟩)
      rw [if_neg hne, ih hdistinct.2 hmem]

theorem lookup_eq_of_perm (h : xs.Perm ys) (hdistinct : (xs.map Prod.fst).Nodup) (n : String) :
    xs.lookup n = ys.lookup n := by
  induction h with
  | nil => rfl
  | cons x hperm ih =>
    rw [List.map_cons, List.nodup_cons] at hdistinct
    rw [List.lookup_cons, List.lookup_cons, ih hdistinct.2]
  | swap x y xs =>
    obtain ⟨a, x⟩ := x
    obtain ⟨b, y⟩ := y
    have hne : b ≠ a := by
      simp only [List.map_cons, List.nodup_cons, List.mem_cons, not_or] at hdistinct
      exact hdistinct.1.1
    rw [lookup_cons_if, lookup_cons_if, lookup_cons_if, lookup_cons_if]
    by_cases hb : n = b
    · have ha : n ≠ a := hb ▸ hne
      rw [if_pos hb, if_pos hb, if_neg ha]
    · rw [if_neg hb, if_neg hb]
  | trans hfirst hsecond ih₁ ih₂ =>
    have hmiddle := (hfirst.map Prod.fst).nodup_iff.mp hdistinct
    rw [ih₁ hdistinct, ih₂ hmiddle]

end PromptRelay
