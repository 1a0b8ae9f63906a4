import PromptRelay.Proofs.Framer.ByteOffsets

namespace PromptRelay.Text

open Utf8 (size)

def truncate? (limit : ℕ) (s : List Char) : Option (List Char) :=
  if size s ≤ limit then some s
  else do
    let (start, _) ← cut? (Nat.findGreatest (IsBoundary s) (min (limit - 3) (size s))) s
    return start ++ "...".toList

variable {n limit : ℕ} {s start x : List Char}

theorem size_le_of_starts (h : x <+: s) : size x ≤ size s := by
  obtain ⟨y, rfl⟩ := h
  rw [size_append]
  omega

theorem IsLongestStart.findGreatest (h : IsLongestStart n s start) :
    Nat.findGreatest (IsBoundary s) (min n (size s)) = size start := by
  rw [Nat.findGreatest_eq_iff]
  refine ⟨le_min h.fits (size_le_of_starts h.starts), fun _ => ?_, ?_⟩
  · obtain ⟨rest, hrest⟩ := h.starts
    exact isBoundary_iff.mpr ⟨start, rest, hrest.symm, rfl⟩
  · intro m hlt hle hboundary
    obtain ⟨y, z, rfl, rfl⟩ := isBoundary_iff.mp hboundary
    have hstart := h.longest y (List.prefix_append y z) (hle.trans (min_le_left _ _))
    exact absurd (size_le_of_starts hstart) (Nat.not_le.mpr hlt)

theorem IsLongestStart.lt_size (h : IsLongestStart n s start) (hlong : n < size s) :
    n < size start + 4 := by
  obtain ⟨rest, rfl⟩ := h.starts
  cases rest with
  | nil =>
    rw [List.append_nil] at hlong
    exact absurd h.fits (Nat.not_le.mpr hlong)
  | cons c rest =>
    have hfour := c.utf8Size_le_four
    by_contra hroom
    have hnext : size (start ++ [c]) ≤ n := by
      rw [size_append]
      simp only [size]
      omega
    have hlonger := h.longest (start ++ [c]) ⟨rest, by simp⟩ hnext
    have hlength := hlonger.length_le
    rw [List.length_append, List.length_singleton] at hlength
    omega

theorem truncate_of_le {s : String} (h : size s.toList ≤ limit) : truncate limit s = s :=
  if_pos h

theorem truncate_of_lt {s : String} (h : limit < size s.toList) :
    truncate limit s = String.ofList (takeBytes (limit - 3) s.toList) ++ "..." :=
  if_neg (Nat.not_le.mpr h)

theorem truncate?_eq (limit : ℕ) (s : String) :
    truncate? limit s.toList = some (truncate limit s).toList := by
  rcases Nat.lt_or_ge limit (size s.toList) with hlong | hshort
  · have hstart := isLongestStart_takeBytes (limit - 3) s.toList
    have hcut := cut?_append (takeBytes (limit - 3) s.toList)
      (s.toList.drop (takeBytes (limit - 3) s.toList).length)
    rw [takeBytes_append_drop] at hcut
    rw [truncate?, if_neg (Nat.not_le.mpr hlong), hstart.findGreatest, hcut, truncate_of_lt hlong]
    simp
  · rw [truncate?, if_pos hshort, truncate_of_le hshort]

theorem size_truncate_of_lt {s : String} (h : limit < size s.toList) :
    size (truncate limit s).toList = size (takeBytes (limit - 3) s.toList) + 3 := by
  have hdots : size "...".toList = 3 := rfl
  rw [truncate_of_lt h, String.toList_append, String.toList_ofList, size_append, hdots]

theorem takeBytes_zero (s : List Char) : takeBytes 0 s = [] := by
  cases s with
  | nil => rfl
  | cons c s => simp [takeBytes, c.utf8Size_pos.ne']

theorem truncate_truncate (limit : ℕ) (s : String) :
    truncate limit (truncate limit s) = truncate limit s := by
  rcases Nat.lt_or_ge limit (size s.toList) with hlong | hshort
  · have hsize := size_truncate_of_lt hlong
    have hfits := size_takeBytes_le (limit - 3) s.toList
    by_cases hroom : 3 ≤ limit
    · exact truncate_of_le (by omega)
    · -- Without room for its mark a text is cut to the mark, and the mark is cut to itself.
      have hzero : limit - 3 = 0 := by omega
      have hmark : limit < size (truncate limit s).toList := by omega
      rw [truncate_of_lt hmark, truncate_of_lt hlong, hzero, takeBytes_zero, takeBytes_zero]
  · rw [truncate_of_le hshort, truncate_of_le hshort]

theorem truncate_tight (limit : ℕ) (s : String) :
    (size s.toList ≤ limit → truncate limit s = s) ∧
      (limit < size s.toList → ∃ start, IsLongestStart (limit - 3) s.toList start ∧
        truncate limit s = String.ofList start ++ "...") ∧
      (3 ≤ limit → size (truncate limit s).toList ≤ limit ∧
        (limit < size s.toList → limit - 3 ≤ size (truncate limit s).toList)) ∧
      truncate limit (truncate limit s) = truncate limit s ∧
      truncate? limit s.toList = some (truncate limit s).toList := by
  have hstart := isLongestStart_takeBytes (limit - 3) s.toList
  refine ⟨truncate_of_le, fun hlong => ⟨_, hstart, truncate_of_lt hlong⟩, ?_,
    truncate_truncate limit s, truncate?_eq limit s⟩
  intro hroom
  refine ⟨(isCut_truncate hroom s).fits, fun hlong => ?_⟩
  have hsize := size_truncate_of_lt hlong
  have hnext := hstart.lt_size (by omega)
  omega

-- The room of four bytes ends within a character.
example : truncate? 7 "café crème".toList = some "caf...".toList := by decide

end PromptRelay.Text
