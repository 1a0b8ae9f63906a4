import Mathlib.Data.List.Basic
import PromptRelay.FileTree

namespace PromptRelay.FileTree

variable {t t' t'' : FileTree}

theorem get?_nil (t : FileTree) : t.get? [] = some .directory :=
  rfl

theorem get?_of_ne_nil {place : List String} (h : place ≠ []) :
    t.get? place = t.entries.lookup place := by
  rw [get?, if_neg (by simpa using h)]

theorem lookup_filter_ne {place other : List String} (h : other ≠ place)
    (entries : List (List String × Node)) :
    (entries.filter fun e => e.1 ≠ place).lookup other = entries.lookup other := by
  induction entries with
  | nil => rfl
  | cons e entries ih =>
    obtain ⟨p, node⟩ := e
    by_cases hp : p = place
    · have hother : (other == p) = false := beq_false_of_ne (hp ▸ h)
      rw [List.filter_cons_of_neg (by simpa using hp), ih, List.lookup_cons, hother]
    · rw [List.filter_cons_of_pos (by simpa using hp), List.lookup_cons, List.lookup_cons, ih]

theorem get?_set_self {place : List String} (h : place ≠ []) (node : Node) :
    (t.set place node).get? place = some node := by
  rw [get?_of_ne_nil h, set, List.lookup_cons, beq_self_eq_true]

theorem get?_set_of_ne {place other : List String} (h : other ≠ place) (node : Node) :
    (t.set place node).get? other = t.get? other := by
  by_cases hnil : other = []
  · rw [hnil, get?_nil, get?_nil]
  · rw [get?_of_ne_nil hnil, get?_of_ne_nil hnil, set, List.lookup_cons, beq_false_of_ne h,
      lookup_filter_ne h]

def Within (t t' : FileTree) : Prop :=
  ∀ place node, t.get? place = some node → t'.get? place = some node

def Keeps (t t' : FileTree) : Prop :=
  ∀ place, t.get? place = some .directory → t'.get? place = some .directory

theorem Within.keeps (h : t.Within t') : t.Keeps t' :=
  fun place hplace => h place _ hplace

theorem Within.refl (t : FileTree) : t.Within t :=
  fun _ _ h => h

theorem Within.trans (h : t.Within t') (h' : t'.Within t'') : t.Within t'' :=
  fun place node hnode => h' place node (h place node hnode)

theorem within_set {place : List String} (h : t.get? place = none) (node : Node) :
    t.Within (t.set place node) := by
  intro other found hother
  have hne : other ≠ place := by
    rintro rfl
    rw [h] at hother
    cases hother
  rw [get?_set_of_ne hne]
  exact hother

theorem keeps_set {place : List String} (h : t.get? place ≠ some .directory) (node : Node) :
    t.Keeps (t.set place node) := by
  intro other hother
  have hne : other ≠ place := by
    rintro rfl
    exact h hother
  rw [get?_set_of_ne hne]
  exact hother

section

variable {here start p : List String} {name path : String} {names : List String}

theorem Keeps.enter (h : t.Keeps t') (hp : t.enter start name = .ok p) :
    t'.enter start name = .ok p := by
  unfold FileTree.enter at hp ⊢
  split at hp
  next => cases hp
  next => cases hp
  next hdirectory =>
    rw [h start hdirectory]
    exact hp

theorem Keeps.walk (h : t.Keeps t') (hp : t.walk start names = .ok p) :
    t'.walk start names = .ok p := by
  unfold FileTree.walk at hp ⊢
  induction names generalizing start with
  | nil => exact hp
  | cons name names ih =>
    rw [List.foldlM_cons] at hp ⊢
    cases hname : t.enter start name with
    | error problem =>
      rw [hname] at hp
      cases hp
    | ok next =>
      rw [hname] at hp
      rw [h.enter hname]
      exact ih hp

theorem Keeps.place (h : t.Keeps t') (hp : t.place here path = .ok p) :
    t'.place here path = .ok p := by
  unfold FileTree.place at hp ⊢
  by_cases hempty : path = ""
  · rw [if_pos hempty] at hp
    cases hp
  · rw [if_neg hempty] at hp ⊢
    exact h.walk hp

theorem find?_eq (hp : t.place here path = .ok p) : t.find? here path = t.get? p := by
  rw [find?, hp]

theorem readFile?_eq_some {bytes : List UInt8} (hp : t.place here path = .ok p)
    (hfile : t.get? p = some (.file bytes)) : t.readFile? here path = some bytes := by
  rw [readFile?, find?_eq hp, hfile]

theorem makeDirectories_spec (h : t.makeDirectories start names = .ok t') :
    t.Within t' ∧ ∀ t'', t'.Keeps t'' → t''.makeDirectories start names = .ok t'' := by
  induction names generalizing t start with
  | nil =>
    obtain rfl := Except.ok.inj h
    exact ⟨.refl t, fun t'' _ => rfl⟩
  | cons name names ih =>
    rw [makeDirectories] at h
    cases hname : t.enter start name with
    | error problem =>
      rw [hname] at h
      cases h
    | ok p =>
      simp only [hname, bind, Except.bind] at h
      have hagain {t'' : FileTree} (hthere : t.Keeps t'') (hp : t''.get? p = some .directory)
          (hrest : t''.makeDirectories p names = .ok t'') :
          t''.makeDirectories start (name :: names) = .ok t'' := by
        simp [makeDirectories, hthere.enter hname, hp, hrest, bind, Except.bind]
      cases hp : t.get? p with
      | none =>
        simp only [hp] at h
        have hnil : p ≠ [] := by
          rintro rfl
          cases hp
        obtain ⟨hwithin, hrest⟩ := ih h
        have hset := within_set hp .directory
        refine ⟨hset.trans hwithin, ?_⟩
        intro t'' hkeeps
        have hthere : t.Keeps t'' := fun q hq => hkeeps q ((hset.trans hwithin) q _ hq)
        have hmade := hwithin p _ (get?_set_self hnil .directory)
        exact hagain hthere (hkeeps p hmade) (hrest t'' hkeeps)
      | some node =>
        cases node with
        | file bytes =>
          simp only [hp] at h
          cases h
        | directory =>
          simp only [hp] at h
          obtain ⟨hwithin, hrest⟩ := ih h
          refine ⟨hwithin, ?_⟩
          intro t'' hkeeps
          have hthere : t.Keeps t'' := fun q hq => hkeeps q (hwithin q _ hq)
          exact hagain hthere (hthere p hp) (hrest t'' hkeeps)

theorem get?_of_makeDirectories {place : List String} {bytes : List UInt8}
    (h : t.makeDirectories start names = .ok t') (hfile : t'.get? place = some (.file bytes)) :
    t.get? place = some (.file bytes) := by
  induction names generalizing t start with
  | nil =>
    obtain rfl := Except.ok.inj h
    exact hfile
  | cons name names ih =>
    rw [makeDirectories] at h
    cases hname : t.enter start name with
    | error problem =>
      rw [hname] at h
      cases h
    | ok p =>
      simp only [hname, bind, Except.bind] at h
      cases hp : t.get? p with
      | none =>
        simp only [hp] at h
        have hset := ih h
        have hnil : p ≠ [] := by
          rintro rfl
          cases hp
        have hne : place ≠ p := by
          rintro rfl
          rw [get?_set_self hnil] at hset
          cases hset
        rwa [get?_set_of_ne hne] at hset
      | some node =>
        cases node with
        | file bytes =>
          simp only [hp] at h
          cases h
        | directory =>
          simp only [hp] at h
          exact ih h

theorem openFile_cases (h : t.openFile here path = .ok (t', p)) :
    t.place here path = .ok p ∧ ((∃ bytes, t.get? p = some (.file bytes) ∧ t' = t) ∨
      t.get? p = none ∧ t' = t.set p (.file [])) := by
  unfold FileTree.openFile at h
  cases hp : t.place here path with
  | error problem =>
    rw [hp] at h
    cases h
  | ok q =>
    simp only [hp, bind, Except.bind] at h
    cases hq : t.get? q with
    | none =>
      simp only [hq] at h
      split_ifs at h
      obtain ⟨rfl, rfl⟩ := Prod.mk.inj (Except.ok.inj h)
      exact ⟨rfl, .inr ⟨hq, rfl⟩⟩
    | some node =>
      cases node with
      | file bytes =>
        simp only [hq] at h
        obtain ⟨rfl, rfl⟩ := Prod.mk.inj (Except.ok.inj h)
        exact ⟨rfl, .inl ⟨bytes, hq, rfl⟩⟩
      | directory =>
        simp only [hq] at h
        cases h

end

end PromptRelay.FileTree
