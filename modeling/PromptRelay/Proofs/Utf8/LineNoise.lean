import PromptRelay.Proofs.Utf8.LenientDecoding

namespace PromptRelay.Utf8

def IsStray (b : UInt8) : Prop :=
  0x80 ≤ b ∧ b ≤ 0xC1 ∨ 0xF5 ≤ b

instance (b : UInt8) : Decidable (IsStray b) :=
  inferInstanceAs (Decidable (0x80 ≤ b ∧ b ≤ 0xC1 ∨ 0xF5 ≤ b))

def IsTruncated (bs : List UInt8) : Prop :=
  bs ≠ [] ∧ ∃ rest, rest ≠ [] ∧ IsWellFormed (bs ++ rest)

/-- The bytes of a text, with stray bytes before each character and at the end, and behind the stray
bytes before a character perhaps a sequence that is cut off. -/
inductive Noisy : List Char → List UInt8 → Prop where
  | nil {stray : List UInt8} (hstray : ∀ b ∈ stray, IsStray b) : Noisy [] stray
  | cons {c : Char} {s : List Char} {stray cut bytes : List UInt8}
      (hstray : ∀ b ∈ stray, IsStray b) (hcut : cut = [] ∨ IsTruncated cut)
      (hrest : Noisy s bytes) :
      Noisy (c :: s) (stray ++ (cut ++ (String.utf8EncodeChar c ++ bytes)))

theorem IsStray.shape {b : UInt8} (h : IsStray b) : shape [b] = .broken := by
  simp only [IsStray, UInt8.le_iff_toNat_le, UInt8.reduceToNat] at h
  have hnot : ¬b < 0x80 := by
    simp only [UInt8.lt_iff_toNat_lt, UInt8.reduceToNat]
    omega
  have hnot' : ¬(0xC2 ≤ b && b ≤ 0xF4) = true := by
    simp only [Bool.and_eq_true, decide_eq_true_eq, UInt8.le_iff_toNat_le, UInt8.reduceToNat]
    omega
  rw [Utf8.shape, if_neg hnot, if_neg hnot']

theorem lenient_append_of_stray {stray : List UInt8} (h : ∀ b ∈ stray, IsStray b)
    (bs : List UInt8) : lenient (stray ++ bs) = lenient bs := by
  induction stray with
  | nil => rfl
  | cons b stray ih =>
    obtain ⟨hb, hstray⟩ := List.forall_mem_cons.mp h
    have hbroken : shape ([] ++ [b]) = .broken := hb.shape
    have hdrop := lenient_of_stray (stray ++ bs) hbroken (.inl rfl)
    rw [List.cons_append, ← ih hstray]
    exact hdrop

theorem exists_range_of_fits {bs : List UInt8} {row : List (UInt8 × UInt8)}
    (h : fits bs row = true) {b : UInt8} (hb : b ∈ bs) :
    ∃ range ∈ row, range.1 ≤ b ∧ b ≤ range.2 := by
  induction bs generalizing row with
  | nil => cases hb
  | cons a bs ih =>
    cases row with
    | nil => cases h
    | cons range row =>
      simp only [fits, Bool.and_eq_true, decide_eq_true_eq] at h
      rcases List.mem_cons.mp hb with rfl | hmem
      · exact ⟨range, List.mem_cons_self, h.1⟩
      · obtain ⟨later, hlater, hrange⟩ := ih h.2 hmem
        exact ⟨later, List.mem_cons_of_mem range hlater, hrange⟩

theorem isTrail_of_fits {a b : UInt8} {bs : List UInt8} {row : List (UInt8 × UInt8)}
    (hrow : row ∈ sequenceTable) (h : fits (a :: bs) row = true) (hb : b ∈ bs) :
    isTrail b = true := by
  have hranges : sequenceTable.all (fun row => row.tail.all fun range =>
      0x80 ≤ range.1 ∧ range.2 ≤ 0xBF) = true := by decide
  simp only [List.all_eq_true, decide_eq_true_eq] at hranges
  cases row with
  | nil => cases h
  | cons first row =>
    simp only [fits, Bool.and_eq_true] at h
    obtain ⟨range, hrange, hfirst, hlast⟩ := exists_range_of_fits h.2 hb
    obtain ⟨hlow, hhigh⟩ := hranges _ hrow range hrange
    simp only [isTrail, Bool.and_eq_true, decide_eq_true_eq]
    exact ⟨UInt8.le_trans hlow hfirst, UInt8.le_trans hlast hhigh⟩

theorem exists_first_byte (c : Char) :
    ∃ b bs, String.utf8EncodeChar c = b :: bs ∧ isTrail b = false := by
  have hranges : sequenceTable.all (fun row => row.head?.all fun range =>
      range.2 < 0x80 ∨ 0xBF < range.1) = true := by decide
  simp only [List.all_eq_true, Option.all_eq_true, decide_eq_true_eq] at hranges
  obtain ⟨row, hrow, hfit, -⟩ := isWellFormed_utf8EncodeChar c
  obtain ⟨b, bs, hbytes⟩ := List.exists_cons_of_ne_nil (String.utf8EncodeChar_ne_nil (c := c))
  refine ⟨b, bs, hbytes, ?_⟩
  rw [hbytes] at hfit
  cases row with
  | nil => cases hfit
  | cons range row =>
    simp only [fits, Bool.and_eq_true, decide_eq_true_eq] at hfit
    have hfirst := hranges _ hrow range rfl
    simp only [UInt8.lt_iff_toNat_lt, UInt8.le_iff_toNat_le, UInt8.reduceToNat] at hfirst hfit
    rw [← Bool.not_eq_true, isTrail_iff]
    omega

theorem shape_append_first {held : List UInt8} {b : UInt8} (hheld : held ≠ [])
    (hb : isTrail b = false) : shape (held ++ [b]) = .broken := by
  obtain ⟨a, bs, rfl⟩ := List.exists_cons_of_ne_nil hheld
  have hfits : ∀ row ∈ sequenceTable, ¬fits (a :: bs ++ [b]) row = true := by
    intro row hrow hfit
    have htrail := isTrail_of_fits hrow hfit (List.mem_append_right bs List.mem_cons_self)
    rw [hb] at htrail
    cases htrail
  rw [shape_eq_broken_iff]
  constructor
  · rintro ⟨row, hrow, hfit, -⟩
    exact hfits row hrow hfit
  · rintro ⟨-, row, hrow, hfit, -⟩
    exact hfits row hrow hfit

theorem lenient_append_of_truncated {cut : List UInt8} (h : IsTruncated cut) (c : Char)
    (bs : List UInt8) : lenient (cut ++ (String.utf8EncodeChar c ++ bs)) =
      lenient (String.utf8EncodeChar c ++ bs) := by
  obtain ⟨hne, rest, hrest, hwhole⟩ := h
  obtain ⟨b, tail, hbytes, hb⟩ := exists_first_byte c
  have hbegin := hwhole.isBeginning hne hrest
  have hdrop := lenient_of_stray (tail ++ bs) (shape_append_first hne hb) (.inr hbegin)
  have hlen : max 1 cut.length = cut.length := Nat.max_eq_right (List.length_pos_iff.mpr hne)
  rw [hlen, List.drop_left] at hdrop
  rw [hbytes]
  exact hdrop

theorem Noisy.lenient {s : List Char} {bytes : List UInt8} (h : Noisy s bytes) :
    lenient bytes = (s, []) := by
  induction h with
  | nil hstray =>
    have hnone := lenient_append_of_stray hstray []
    rw [List.append_nil, lenient_nil] at hnone
    exact hnone
  | @cons c s stray cut bytes hstray hcut hrest ih =>
    rw [lenient_append_of_stray hstray]
    have hresume : Utf8.lenient (cut ++ (String.utf8EncodeChar c ++ bytes)) =
        Utf8.lenient (String.utf8EncodeChar c ++ bytes) := by
      rcases hcut with rfl | hcut
      · rfl
      · exact lenient_append_of_truncated hcut c bytes
    rw [hresume, lenient_utf8EncodeChar_append, ih]

namespace Decoder

theorem feedEach_noisy {s : List Char} {pieces : List (List UInt8)}
    (h : Noisy s pieces.flatten) :
    (({} : Decoder).feedEach pieces).1.flatten = s ∧
      (({} : Decoder).feedEach pieces).2.held = [] ∧
      (({} : Decoder).feedEach pieces).2.isWaiting = false := by
  obtain ⟨htexts, hlast⟩ := feedEach_eq_feed {} pieces
  rw [htexts, hlast, feed_empty, h.lenient]
  exact ⟨rfl, rfl, rfl⟩

theorem feedEach_noisy_euro :
    let pieces : List (List UInt8) :=
      [[0x41, 0xFF, 0xE2], [0x82, 0xE2], [], [0x82, 0xAC, 0x80, 0xC1]]
    Noisy ['A', '€'] pieces.flatten ∧ (({} : Decoder).feedEach pieces).1.flatten = ['A', '€'] ∧
      (({} : Decoder).feedEach pieces).2.held = [] ∧
      (({} : Decoder).feedEach pieces).2.isWaiting = false := by
  intro pieces
  have htruncated : IsTruncated [0xE2, 0x82] := ⟨by decide, [0xAC], by decide, by decide +kernel⟩
  have hstray : ∀ b ∈ [0xFF], IsStray b := by simp [IsStray]
  have hlast : ∀ b ∈ [0x80, 0xC1], IsStray b := by simp [IsStray]
  have hsecond : Noisy ['€'] [0xFF, 0xE2, 0x82, 0xE2, 0x82, 0xAC, 0x80, 0xC1] :=
    .cons hstray (.inr htruncated) (.nil hlast)
  have hnoisy : Noisy ['A', '€'] pieces.flatten :=
    @Noisy.cons 'A' _ [] [] _ (List.forall_mem_nil _) (.inl rfl) hsecond
  exact ⟨hnoisy, feedEach_noisy hnoisy⟩

end Decoder

end PromptRelay.Utf8
