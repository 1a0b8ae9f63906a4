import Mathlib.Data.List.Infix
import PromptRelay.Text.Truncate

namespace PromptRelay

theorem size_eq_length {s : List Char} (h : ∀ c ∈ s, c.utf8Size = 1) : Utf8.size s = s.length := by
  induction s with
  | nil => rfl
  | cons c s ih =>
    rw [List.forall_mem_cons] at h
    rw [Utf8.size, h.1, ih h.2, List.length_cons, Nat.add_comm]

theorem size_append (s t : List Char) : Utf8.size (s ++ t) = Utf8.size s + Utf8.size t := by
  induction s with
  | nil => simp [Utf8.size]
  | cons c s ih => rw [List.cons_append, Utf8.size, Utf8.size, ih, Nat.add_assoc]

theorem size_reverse (s : List Char) : Utf8.size s.reverse = Utf8.size s := by
  induction s with
  | nil => rfl
  | cons c s ih =>
    rw [List.reverse_cons, size_append, ih, Utf8.size, Utf8.size, Utf8.size]
    omega

namespace Text

structure IsLongestStart (n : ℕ) (s start : List Char) : Prop where
  starts : start <+: s
  fits : Utf8.size start ≤ n
  longest : ∀ other, other <+: s → Utf8.size other ≤ n → other <+: start

theorem isLongestStart_takeBytes (n : ℕ) (s : List Char) : IsLongestStart n s (takeBytes n s) where
  starts := ⟨_, takeBytes_append_drop n s⟩
  fits := size_takeBytes_le n s
  longest other hother hsize := by
    induction s generalizing n other with
    | nil =>
      obtain rfl := List.prefix_nil.mp hother
      exact List.nil_prefix
    | cons c s ih =>
      cases other with
      | nil => exact List.nil_prefix
      | cons d other =>
        obtain ⟨rfl, hrest⟩ := List.cons_prefix_cons.mp hother
        rw [Utf8.size] at hsize
        rw [takeBytes, if_pos (by omega)]
        exact List.cons_prefix_cons.mpr ⟨rfl, ih _ other hrest (by omega)⟩

structure IsCut (limit : ℕ) (s cut : List Char) : Prop where
  fits : Utf8.size cut ≤ limit
  whole : Utf8.size s ≤ limit → cut = s
  shortened : limit < Utf8.size s → ∃ start, IsLongestStart (limit - 3) s start ∧
    cut = start ++ "...".toList

theorem isCut_truncate {limit : ℕ} (h : 3 ≤ limit) (s : String) :
    IsCut limit s.toList (truncate limit s).toList := by
  have hdots : Utf8.size "...".toList = 3 := rfl
  unfold truncate
  split_ifs with hsize
  · exact ⟨hsize, fun _ => rfl, fun hlt => absurd hsize (Nat.not_le.mpr hlt)⟩
  · rw [String.toList_append, String.toList_ofList]
    refine ⟨?_, fun hle => absurd hle hsize, fun _ => ⟨_, isLongestStart_takeBytes _ _, rfl⟩⟩
    have hfits := size_takeBytes_le (limit - 3) s.toList
    rw [size_append, hdots]
    omega

end Text

end PromptRelay
