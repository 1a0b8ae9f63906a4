import Mathlib.Data.Char
import Mathlib.Tactic.IntervalCases
import Mathlib.Tactic.NormNum

namespace PromptRelay

theorem exists_toDigits {n : ℕ} (h : n ≠ 0) : ∃ c s, Nat.toDigits 10 n = c :: s ∧ c ≠ '0' := by
  induction n using Nat.strong_induction_on with
  | h n ih =>
    by_cases hten : n < 10
    · refine ⟨_, [], Nat.toDigits_of_lt_base hten, ?_⟩
      interval_cases n <;> first | exact absurd rfl h | decide
    · obtain ⟨c, s, hdigits, hc⟩ := ih (n / 10) (by omega) (by omega)
      refine ⟨c, s ++ [(n % 10).digitChar], ?_, hc⟩
      rw [Nat.toDigits_of_base_le (by omega) (by omega), hdigits, List.cons_append]

theorem isDigit_toDigits (n : ℕ) : ∀ c ∈ Nat.toDigits 10 n, c.isDigit = true :=
  fun _ hc => Nat.isDigit_of_mem_toDigits (by decide) (by decide) hc

theorem toDigits_ne_zero_cons (n : ℕ) (d : Char) (s : List Char) :
    Nat.toDigits 10 n ≠ '0' :: d :: s := by
  intro hdigits
  by_cases hn : n = 0
  · simp [hn] at hdigits
  · obtain ⟨c, s, hn, hc⟩ := exists_toDigits hn
    rw [hdigits] at hn
    exact hc (List.cons.inj hn).1.symm

variable {p : Char → Bool} {run rest : List Char}

theorem takeWhile_run (h : ∀ c ∈ run, p c = true) (hrest : ∀ c ∈ rest.head?, p c = false) :
    (run ++ rest).takeWhile p = run := by
  rw [List.takeWhile_append_of_pos h]
  cases rest with
  | nil => simp
  | cons c s => simp [hrest c rfl]

theorem dropWhile_run (h : ∀ c ∈ run, p c = true) (hrest : ∀ c ∈ rest.head?, p c = false) :
    (run ++ rest).dropWhile p = rest := by
  rw [List.dropWhile_append_of_pos h]
  cases rest with
  | nil => rfl
  | cons c s => simp [hrest c rfl]

end PromptRelay
