import PromptRelay.Utf8.Sequence

namespace PromptRelay.Text

def takeBytes : Nat → List Char → List Char
  | _, [] => []
  | n, c :: s => if c.utf8Size ≤ n then c :: takeBytes (n - c.utf8Size) s else []

def reachBytes : Nat → List Char → List Char
  | _, [] => []
  | 0, _ => []
  | n + 1, c :: s => c :: reachBytes (n + 1 - c.utf8Size) s

def truncate (limit : Nat) (s : String) : String :=
  if Utf8.size s.toList ≤ limit then s
  else String.ofList (takeBytes (limit - 3) s.toList) ++ "..."

theorem takeBytes_append_drop (n : Nat) (s : List Char) :
    takeBytes n s ++ s.drop (takeBytes n s).length = s := by
  induction s generalizing n with
  | nil => simp [takeBytes]
  | cons c s ih => by_cases h : c.utf8Size ≤ n <;> simp [takeBytes, h, ih]

theorem size_takeBytes_le (n : Nat) (s : List Char) : Utf8.size (takeBytes n s) ≤ n := by
  induction s generalizing n with
  | nil => simp [takeBytes, Utf8.size]
  | cons c s ih =>
    by_cases h : c.utf8Size ≤ n
    · have := ih (n - c.utf8Size)
      simp only [takeBytes, h, if_true, Utf8.size] at this ⊢
      omega
    · simp [takeBytes, h, Utf8.size]

end PromptRelay.Text
