import Mathlib.Data.List.Basic

namespace PromptRelay

variable {ε α β : Type} {e : ε}

theorem exists_ok_of_bind {a : Except ε α} {f : α → Except ε β} {y : β} (h : a >>= f = .ok y) :
    ∃ x, a = .ok x ∧ f x = .ok y := by
  cases a with
  | error e => cases h
  | ok x => exact ⟨x, rfl, h⟩

theorem foldlM_keeps {P : α → Prop} {f : α → β → Except ε α} {xs : List β} {x y : α}
    (h : ∀ b ∈ xs, ∀ x y, f x b = .ok y → P x → P y)
    (hfold : xs.foldlM f x = .ok y) (hx : P x) : P y := by
  induction xs generalizing x with
  | nil =>
    obtain rfl := Except.ok.inj hfold
    exact hx
  | cons b xs ih =>
    rw [List.forall_mem_cons] at h
    rw [List.foldlM_cons] at hfold
    obtain ⟨z, hstep, hrest⟩ := exists_ok_of_bind hfold
    exact ih h.2 hrest (h.1 x z hstep hx)

theorem mapM_eq_ok {f : α → Except ε β} {g : α → β} {xs : List α}
    (h : ∀ x ∈ xs, f x = .ok (g x)) : xs.mapM f = .ok (xs.map g) := by
  induction xs with
  | nil => rfl
  | cons x xs ih =>
    rw [List.forall_mem_cons] at h
    rw [List.mapM_cons, h.1, ih h.2]
    rfl

theorem mapM_eq_error {f : α → Except ε β} {x : α} {xs : List α}
    (h : ∀ x ∈ xs, ∀ e', f x = .error e' → e' = e) (hx : x ∈ xs) (herror : f x = .error e) :
    xs.mapM f = .error e := by
  induction xs with
  | nil => cases hx
  | cons y xs ih =>
    rw [List.forall_mem_cons] at h
    rw [List.mapM_cons]
    cases hy : f y with
    | error e' => rw [h.1 e' hy]; rfl
    | ok z =>
      rcases List.mem_cons.mp hx with rfl | hmem
      · rw [hy] at herror
        cases herror
      · rw [ih h.2 hmem]
        rfl

end PromptRelay
