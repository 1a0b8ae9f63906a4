namespace PromptRelay.Unicode

def covers : List (Nat × Nat) → Nat → Bool
  | [], _ => false
  | (first, last) :: ranges, c => if c < first then false else c ≤ last || covers ranges c

theorem covers_of_lt {first last c : Nat} {ranges : List (Nat × Nat)} (h : c < first) :
    covers ((first, last) :: ranges) c = false := by
  simp [covers, h]

end PromptRelay.Unicode
