import PromptRelay.Config.Layers
import PromptRelay.Proofs.Members

namespace PromptRelay

namespace Setting

def at? : List String → Setting → Option Setting
  | [], v => some v
  | name :: path, dict ms => (ms.lookup name).bind (at? path)
  | _ :: _, _ => none

def IsAscending (ms : List (String × Setting)) : Prop :=
  ms.Pairwise fun a b => a.1 < b.1

inductive IsSorted : Setting → Prop
  | dict {ms : List (String × Setting)} (h : IsAscending ms)
      (hmembers : ∀ m ∈ ms, IsSorted m.2) : IsSorted (.dict ms)
  | other {v : Setting} (h : ∀ ms, v ≠ .dict ms) : IsSorted v

theorem isSorted_dict {ms : List (String × Setting)} :
    IsSorted (.dict ms) ↔ IsAscending ms ∧ ∀ m ∈ ms, IsSorted m.2 := by
  constructor
  · intro h
    cases h with
    | dict h hmembers => exact ⟨h, hmembers⟩
    | other h => exact absurd rfl (h ms)
  · rintro ⟨h, hmembers⟩
    exact .dict h hmembers

theorem isSorted_nil : IsSorted (.dict []) :=
  .dict .nil (List.forall_mem_nil _)

section

variable {name n : String} {f : Option Setting → Setting} {ms members : List (String × Setting)}

theorem IsAscending.nodup (h : IsAscending ms) : (ms.map Prod.fst).Nodup := by
  rw [List.Nodup, List.pairwise_map]
  refine h.imp ?_
  intro a b hlt heq
  rw [heq] at hlt
  exact String.lt_irrefl _ hlt

theorem lookup_eq_none_of_lt (h : ∀ m ∈ ms, n < m.1) : ms.lookup n = none := by
  apply lookup_eq_none_of_not_mem
  intro hname
  obtain ⟨m, hm, rfl⟩ := List.mem_map.mp hname
  exact String.lt_irrefl _ (h m hm)

theorem lookup_put (h : IsAscending ms) (n : String) :
    (put name f ms).lookup n = if n = name then some (f (ms.lookup name)) else ms.lookup n := by
  induction ms with
  | nil => rw [put, lookup_cons_if, List.lookup_nil, List.lookup_nil]
  | cons m ms ih =>
    obtain ⟨first, v⟩ := m
    obtain ⟨hfirst, hrest⟩ := List.pairwise_cons.mp h
    rw [put]
    by_cases hname : first = name
    · subst hname
      rw [if_pos rfl, lookup_cons_if, lookup_cons_if, lookup_cons_if, if_pos rfl]
      split_ifs <;> rfl
    · by_cases hlt : name < first
      · have hnone : ((first, v) :: ms).lookup name = none := by
          apply lookup_eq_none_of_lt
          rw [List.forall_mem_cons]
          exact ⟨hlt, fun m hm => String.lt_trans hlt (hfirst m hm)⟩
        rw [if_neg hname, if_pos hlt, hnone, lookup_cons_if]
      · rw [if_neg hname, if_neg hlt, lookup_cons_if, ih hrest, lookup_cons_if, lookup_cons_if,
          if_neg (Ne.symm hname)]
        by_cases hn : n = first
        · rw [if_pos hn, if_pos hn, if_neg (hn ▸ hname)]
        · rw [if_neg hn, if_neg hn]

theorem mem_put {m : String × Setting} (h : m ∈ put name f ms) :
    m ∈ ms ∨ m = (name, f none) ∨ ∃ old, (name, old) ∈ ms ∧ m = (name, f (some old)) := by
  induction ms with
  | nil =>
    rw [put, List.mem_singleton] at h
    exact .inr (.inl h)
  | cons x ms ih =>
    obtain ⟨first, v⟩ := x
    rw [put] at h
    split_ifs at h with hname hlt
    · subst hname
      rcases List.mem_cons.mp h with rfl | hrest
      · exact .inr (.inr ⟨v, List.mem_cons_self, rfl⟩)
      · exact .inl (List.mem_cons_of_mem _ hrest)
    · rcases List.mem_cons.mp h with rfl | hrest
      · exact .inr (.inl rfl)
      · exact .inl hrest
    · rcases List.mem_cons.mp h with rfl | hrest
      · exact .inl List.mem_cons_self
      · rcases ih hrest with hmem | hnew | ⟨old, hold, hm⟩
        · exact .inl (List.mem_cons_of_mem _ hmem)
        · exact .inr (.inl hnew)
        · exact .inr (.inr ⟨old, List.mem_cons_of_mem _ hold, hm⟩)

theorem IsAscending.put (h : IsAscending ms) : IsAscending (put name f ms) := by
  induction ms with
  | nil => exact List.pairwise_singleton _ _
  | cons x ms ih =>
    obtain ⟨first, v⟩ := x
    obtain ⟨hfirst, hrest⟩ := List.pairwise_cons.mp h
    rw [Setting.put]
    split_ifs with hname hlt
    · exact List.pairwise_cons.mpr ⟨hfirst, hrest⟩
    · refine List.pairwise_cons.mpr ⟨?_, h⟩
      rw [List.forall_mem_cons]
      exact ⟨hlt, fun m hm => String.lt_trans hlt (hfirst m hm)⟩
    · refine List.pairwise_cons.mpr ⟨?_, ih hrest⟩
      have hgt : first < name := Std.lt_of_le_of_ne (String.not_lt.mp hlt) hname
      intro m hm
      rcases mem_put hm with hmem | rfl | ⟨old, -, rfl⟩
      · exact hfirst m hmem
      · exact hgt
      · exact hgt

theorem IsSorted.put (h : IsSorted (.dict ms)) (hnone : IsSorted (f none))
    (hsome : ∀ old, IsSorted old → IsSorted (f (some old))) :
    IsSorted (.dict (put name f ms)) := by
  obtain ⟨hascending, hmembers⟩ := isSorted_dict.mp h
  refine .dict hascending.put ?_
  intro m hm
  rcases mem_put hm with hmem | rfl | ⟨old, hold, rfl⟩
  · exact hmembers m hmem
  · exact hnone
  · exact hsome old (hmembers _ hold)

end

section

variable {a b v : Setting} {ms members : List (String × Setting)}

theorem merge_of_ne_dict (a : Setting) (h : ∀ ms, v ≠ dict ms) : a.merge v = v := by
  cases v with
  | dict ms => exact absurd rfl (h ms)
  | _ =>
    rw [merge]
    simp

theorem merge_dict (ms members : List (String × Setting)) :
    (dict ms).merge (dict members) = dict (mergeMembers ms members) := by
  rw [merge]

theorem merge_dict_of_ne (h : ∀ ms, a ≠ dict ms) (members : List (String × Setting)) :
    a.merge (dict members) = dict members := by
  cases a with
  | dict ms => exact absurd rfl (h ms)
  | _ =>
    rw [merge]
    exact h

theorem IsSorted.mergeMembers (h : IsSorted (.dict ms))
    (hmembers : ∀ m ∈ members, IsSorted m.2 ∧ ∀ a, IsSorted a → IsSorted (a.merge m.2)) :
    IsSorted (.dict (mergeMembers ms members)) := by
  induction members generalizing ms with
  | nil =>
    rw [Setting.mergeMembers]
    exact h
  | cons m members ih =>
    obtain ⟨name, v⟩ := m
    rw [List.forall_mem_cons] at hmembers
    rw [Setting.mergeMembers]
    exact ih (h.put hmembers.1.1 hmembers.1.2) hmembers.2

theorem IsSorted.merge (hb : IsSorted b) : ∀ a, IsSorted a → IsSorted (a.merge b) := by
  induction hb with
  | other h =>
    intro a _
    rw [merge_of_ne_dict a h]
    exact .other h
  | @dict members hascending hmembers ih =>
    intro a ha
    cases ha with
    | other h =>
      rw [merge_dict_of_ne h]
      exact .dict hascending hmembers
    | @dict ms h hms =>
      rw [merge_dict]
      exact (IsSorted.dict h hms).mergeMembers fun m hm => ⟨hmembers m hm, ih m hm⟩

theorem lookup_mergeMembers (h : IsAscending ms) (hmembers : (members.map Prod.fst).Nodup)
    (n : String) :
    (mergeMembers ms members).lookup n = match ms.lookup n, members.lookup n with
      | some old, some v => some (old.merge v)
      | none, some v => some v
      | old, none => old := by
  induction members generalizing ms with
  | nil =>
    rw [mergeMembers]
    cases ms.lookup n <;> rfl
  | cons m members ih =>
    obtain ⟨name, v⟩ := m
    rw [List.map_cons, List.nodup_cons] at hmembers
    rw [mergeMembers, ih h.put hmembers.2, lookup_put h, lookup_cons_if]
    by_cases hn : n = name
    · subst hn
      rw [if_pos rfl, if_pos rfl, lookup_eq_none_of_not_mem hmembers.1]
      cases ms.lookup n <;> rfl
    · rw [if_neg hn, if_neg hn]

end

end Setting

end PromptRelay
