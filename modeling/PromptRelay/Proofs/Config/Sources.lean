import PromptRelay.Proofs.Config.Merging

namespace PromptRelay

namespace Setting

mutual

theorem isSorted_ofToml : (v : Toml) → IsSorted (ofToml v)
  | .string s => .other (by simp [ofToml])
  | .int n => .other (by simp [ofToml])
  | .float x => .other (by simp [ofToml])
  | .bool b => .other (by simp [ofToml])
  | .datetime s => by
    rw [ofToml]
    refine .dict (List.pairwise_singleton _ _) ?_
    rw [List.forall_mem_singleton]
    exact .other (by simp)
  | .array items => .other (by simp [ofToml])
  | .table members => by
    rw [ofToml]
    exact isSorted_ofMembers members isSorted_nil

theorem isSorted_ofMembers : (members : List (String × Toml)) → {ms : List (String × Setting)} →
    IsSorted (.dict ms) → IsSorted (.dict (ofMembers members ms))
  | [], ms, h => by
    rw [ofMembers]
    exact h
  | (name, v) :: rest, ms, h => by
    rw [ofMembers]
    exact isSorted_ofMembers rest (h.put (isSorted_ofToml v) fun _ _ => isSorted_ofToml v)

end

end Setting

namespace Config

open Setting (IsSorted)

theorem isSorted_fileSettings? {bytes : List UInt8} {v : Setting}
    (h : fileSettings? bytes = some v) : IsSorted v := by
  unfold fileSettings? at h
  obtain ⟨s, -, h⟩ := Option.bind_eq_some_iff.mp h
  obtain ⟨members, -, h⟩ := Option.bind_eq_some_iff.mp h
  obtain rfl := Option.some.inj h
  exact Setting.isSorted_ofToml _

theorem isSorted_layerSettings? {w : Surroundings} {path : String} {v : Setting}
    (h : layerSettings? w path = some v) : IsSorted v := by
  unfold layerSettings? at h
  split at h
  next =>
    obtain rfl := Option.some.inj h
    exact Setting.isSorted_nil
  next bytes => exact isSorted_fileSettings? h

namespace Variables

structure ReadsSorted (bound : ℕ) : Prop where
  value {s rest : List Char} {v : Setting} (h : readValue bound s = some (v, rest)) : IsSorted v
  bare {s rest : List Char} {v : Setting} (h : readBare bound s = some (v, rest)) : IsSorted v
  members {s rest : List Char} {before ms : List (String × Setting)}
    (h : readMembers bound before s = some (ms, rest)) (hbefore : IsSorted (.dict before)) :
    IsSorted (.dict ms)

theorem isSorted_ofWord (word : List Char) : IsSorted (ofWord word) := by
  apply IsSorted.other
  intro ms
  unfold ofWord integer?
  grind

variable {bound : ℕ}

theorem ReadsSorted.value_succ (ih : ReadsSorted bound) {s rest : List Char} {v : Setting}
    (h : readValue (bound + 1) s = some (v, rest)) : IsSorted v := by
  rw [readValue] at h
  obtain ⟨⟨v', rest'⟩, hbare, h⟩ := Option.bind_eq_some_iff.mp h
  obtain ⟨rfl, -⟩ := Prod.mk.inj (Option.some.inj h)
  exact ih.bare hbare

theorem ReadsSorted.bare_succ (ih : ReadsSorted bound) {s rest : List Char} {v : Setting}
    (h : readBare (bound + 1) s = some (v, rest)) : IsSorted v := by
  unfold readBare at h
  split at h
  next =>
    obtain ⟨rfl, -⟩ := Prod.mk.inj (Option.some.inj h)
    exact .other nofun
  next =>
    obtain ⟨rfl, -⟩ := Prod.mk.inj (Option.some.inj h)
    exact .other nofun
  next =>
    split at h
    next s' =>
      obtain ⟨⟨ms, rest'⟩, hmembers, h⟩ := Option.map_eq_some_iff.mp h
      obtain ⟨rfl, -⟩ := Prod.mk.inj h
      exact ih.members hmembers Setting.isSorted_nil
    next s' =>
      obtain ⟨⟨items, rest'⟩, -, h⟩ := Option.map_eq_some_iff.mp h
      obtain ⟨rfl, -⟩ := Prod.mk.inj h
      exact .other nofun
    next s' =>
      obtain ⟨⟨text, rest'⟩, -, h⟩ := Option.map_eq_some_iff.mp h
      obtain ⟨rfl, -⟩ := Prod.mk.inj h
      exact .other nofun
    next =>
      obtain ⟨rfl, -⟩ := Prod.mk.inj (Option.some.inj h)
      exact .other nofun
    next => cases h
    next =>
      obtain ⟨rfl, -⟩ := Prod.mk.inj (Option.some.inj h)
      exact isSorted_ofWord _

theorem ReadsSorted.members_succ (ih : ReadsSorted bound) {s rest : List Char}
    {before ms : List (String × Setting)} (h : readMembers (bound + 1) before s = some (ms, rest))
    (hbefore : IsSorted (.dict before)) : IsSorted (.dict ms) := by
  unfold readMembers at h
  split at h
  next =>
    obtain ⟨rfl, -⟩ := Prod.mk.inj (Option.some.inj h)
    exact hbefore
  next =>
    obtain ⟨⟨key, s₁⟩, -, h⟩ := Option.bind_eq_some_iff.mp h
    simp only at h
    split at h
    next =>
      obtain ⟨⟨v, s₂⟩, hvalue, h⟩ := Option.bind_eq_some_iff.mp h
      have hv := ih.value hvalue
      have hput : IsSorted (.dict (Setting.put key (fun _ => v) before)) :=
        hbefore.put hv fun _ _ => hv
      simp only at h
      split at h
      next => exact ih.members h hput
      next =>
        obtain ⟨rfl, -⟩ := Prod.mk.inj (Option.some.inj h)
        exact hput
      next => cases h
    next => cases h

theorem readsSorted (bound : ℕ) : ReadsSorted bound := by
  induction bound with
  | zero =>
    constructor
    · intro s rest v h
      cases h
    · intro s rest v h
      cases h
    · intro s rest before ms h
      cases h
  | succ bound ih => exact ⟨ih.value_succ, ih.bare_succ, ih.members_succ⟩

theorem isSorted_ofText (s : String) : IsSorted (ofText s) := by
  unfold ofText
  simp only
  split
  next hread => exact (readsSorted _).value hread
  next => exact .other nofun

theorem isSorted_nest {v : Setting} (h : IsSorted v) (path : List String) :
    IsSorted (nest v path) := by
  induction path with
  | nil => exact h
  | cons name path ih =>
    refine .dict (List.pairwise_singleton _ _) ?_
    rw [List.forall_mem_singleton]
    exact ih

def layer? (entry : String × String) : Option Setting :=
  (path? entry.1).map (nest (ofText entry.2))

theorem isSorted_layer? {entry : String × String} {v : Setting} (h : layer? entry = some v) :
    IsSorted v := by
  obtain ⟨path, -, rfl⟩ := Option.map_eq_some_iff.mp h
  exact isSorted_nest (isSorted_ofText entry.2) path

theorem settings_eq_foldl (environment : List (String × String)) :
    settings environment = (environment.filterMap layer?).foldl Setting.merge (.dict []) := by
  rw [List.foldl_filterMap, settings]
  congr 1
  funext all entry
  obtain ⟨name, value⟩ := entry
  simp only [layer?]
  cases path? name <;> rfl

end Variables

end Config

end PromptRelay
