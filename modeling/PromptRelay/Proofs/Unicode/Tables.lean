import Mathlib.Data.List.Chain
import Mathlib.Data.Nat.Bitwise
import PromptRelay.Proofs.Line.FailureMark
import PromptRelay.Proofs.Utf8.SequenceTable

/-!
What the tables of characters have in common. A decomposition is full: nothing in it decomposes
further. It makes no line break. And only marks have a class by which they are reordered.

The tables are compared as sets of code points, each the bits of one number.
-/

namespace PromptRelay.Unicode

open Decomposition (alphabeticBlocks symbolicBlocks ideographicBlocks presentationBlocks
  supplementaryBlocks)

section Bits

def spanBits (first last : ℕ) : ℕ :=
  (2 ^ (last + 1 - first) - 1) <<< first

def unionBits {α : Type} (bits : α → ℕ) : List α → ℕ
  | [] => 0
  | a :: as => bits a ||| unionBits bits as

theorem testBit_spanBits (first last c : ℕ) :
    (spanBits first last).testBit c = decide (first ≤ c ∧ c ≤ last) := by
  rw [spanBits, Nat.testBit_shiftLeft, Nat.testBit_two_pow_sub_one, ← Bool.decide_and]
  congr 1
  exact propext (by omega)

theorem testBit_unionBits {α : Type} (bits : α → ℕ) (as : List α) (c : ℕ) :
    (unionBits bits as).testBit c = true ↔ ∃ a ∈ as, (bits a).testBit c = true := by
  induction as with
  | nil => simp [unionBits]
  | cons a as ih => simp [unionBits, ih]

theorem not_testBit_of_disjoint {xs ys c : ℕ} (h : xs &&& ys = 0) (hx : xs.testBit c = true) :
    ys.testBit c = false := by
  have hand := congrArg (Nat.testBit · c) h
  simpa [hx] using hand

theorem testBit_of_subset {xs ys c : ℕ} (h : xs ||| ys = ys) (hx : xs.testBit c = true) :
    ys.testBit c = true := by
  have hor := congrArg (Nat.testBit · c) h
  simpa [hx] using hor.symm

end Bits

section Blocks

variable {blocks : List (ℕ × ℕ × List (List ℕ))} {c : ℕ}

def sourceBits (blocks : List (ℕ × ℕ × List (List ℕ))) : ℕ :=
  unionBits (fun block => spanBits block.1 block.2.1) blocks

def imageBits (blocks : List (ℕ × ℕ × List (List ℕ))) : ℕ :=
  unionBits (fun block => unionBits (unionBits fun c => spanBits c c) block.2.2) blocks

theorem imageIn_eq_none (h : (sourceBits blocks).testBit c = false) : imageIn blocks c = none := by
  induction blocks with
  | nil => rfl
  | cons block blocks ih =>
    obtain ⟨first, last, images⟩ := block
    simp only [sourceBits, unionBits, Nat.testBit_or, Bool.or_eq_false_iff, testBit_spanBits,
      decide_eq_false_iff_not] at h
    rw [imageIn, ih h.2]
    split_ifs with hfirst hlast
    · rfl
    · exact absurd ⟨by omega, hlast⟩ h.1
    · rfl

theorem testBit_imageBits {image : List ℕ} {d : ℕ} (h : imageIn blocks c = some image)
    (hd : d ∈ image) : (imageBits blocks).testBit d = true := by
  induction blocks with
  | nil => cases h
  | cons block blocks ih =>
    obtain ⟨first, last, images⟩ := block
    rw [imageIn] at h
    simp only [imageBits, unionBits, Nat.testBit_or, Bool.or_eq_true] at ih ⊢
    split_ifs at h with hfirst hlast
    · left
      simp only [testBit_unionBits, testBit_spanBits, decide_eq_true_eq]
      exact ⟨image, List.mem_of_getElem? h, d, hd, le_rfl, le_rfl⟩
    · exact .inr (ih h)

end Blocks

def decomposedBits : ℕ :=
  spanBits 0xAC00 0xD7A3 ||| unionBits sourceBits
    [alphabeticBlocks, symbolicBlocks, ideographicBlocks, presentationBlocks, supplementaryBlocks]

def breakCodes : List ℕ :=
  [0x0A, 0x0D, 0x0B, 0x0C, 0x85, 0x2028, 0x2029]

def breakBits : ℕ :=
  unionBits (fun c => spanBits c c) breakCodes

def imagesBits : ℕ :=
  spanBits 0x1100 0x11FF ||| unionBits imageBits
    [alphabeticBlocks, symbolicBlocks, ideographicBlocks, presentationBlocks, supplementaryBlocks]

theorem images_disjoint : imagesBits &&& (decomposedBits ||| breakBits) = 0 := by
  decide +kernel

section Decompositions

variable {c d : ℕ}

theorem blocksFor_mem (c : ℕ) : blocksFor c ∈
    [alphabeticBlocks, symbolicBlocks, ideographicBlocks, presentationBlocks,
      supplementaryBlocks] := by
  rw [blocksFor]
  split_ifs <;> simp only [List.mem_cons, true_or, or_true]

theorem decomposition_eq_self (h : decomposedBits.testBit c = false) : decomposition c = [c] := by
  simp only [decomposedBits, Nat.testBit_or, Bool.or_eq_false_iff, testBit_spanBits,
    decide_eq_false_iff_not] at h
  have hblocks : (sourceBits (blocksFor c)).testBit c = false := by
    rw [← Bool.not_eq_true] at h ⊢
    exact fun hbit => h.2 ((testBit_unionBits _ _ c).mpr ⟨_, blocksFor_mem c, hbit⟩)
  rw [decomposition, if_neg h.1, imageIn_eq_none hblocks]
  rfl

theorem testBit_imagesBits (h : d ∈ decomposition c) :
    decomposition c = [c] ∨ imagesBits.testBit d = true := by
  rw [imagesBits, Nat.testBit_or, Bool.or_eq_true, testBit_spanBits, decide_eq_true_eq]
  by_cases hangul : 0xAC00 ≤ c ∧ c ≤ 0xD7A3
  · -- A syllable has two or three jamo.
    right; left
    rw [decomposition, if_pos hangul] at h
    simp only [jamo, List.mem_append, List.mem_cons, List.not_mem_nil, or_false] at h
    rcases h with (rfl | rfl) | hlast
    · omega
    · omega
    · split_ifs at hlast
      · cases hlast
      · rw [List.mem_singleton] at hlast
        omega
  · rw [decomposition, if_neg hangul] at h ⊢
    cases himage : imageIn (blocksFor c) c with
    | none => exact .inl rfl
    | some image =>
      rw [himage] at h
      have hbit := testBit_imageBits himage h
      exact .inr (.inr ((testBit_unionBits _ _ d).mpr ⟨_, blocksFor_mem c, hbit⟩))

theorem decomposition_of_mem (h : d ∈ decomposition c) :
    decomposition d = [d] ∧ (d = c ∨ breakBits.testBit d = false) := by
  rcases testBit_imagesBits h with hself | himage
  · rw [hself, List.mem_singleton] at h
    rw [h]
    exact ⟨hself, .inl rfl⟩
  · have hnone := not_testBit_of_disjoint images_disjoint himage
    rw [Nat.testBit_or, Bool.or_eq_false_iff] at hnone
    exact ⟨decomposition_eq_self hnone.1, .inr hnone.2⟩

end Decompositions

section Characters

variable {c d : Char}

theorem toNat_ofNat_or (n : ℕ) : (Char.ofNat n).toNat = n ∨ Char.ofNat n = '\x00' := by
  by_cases hvalid : n.isValidChar
  · exact .inl (Utf8.toNat_ofNat_of_isValidChar hvalid)
  · right
    rw [Char.ofNat, dif_neg hvalid]
    rfl

theorem isBreak_iff : isBreak c = true ↔ c.toNat ∈ breakCodes :=
  List.contains_iff_mem

theorem isBreak_eq (c : Char) : isBreak c = breakBits.testBit c.toNat := by
  rw [Bool.eq_iff_iff, breakBits, testBit_unionBits, isBreak_iff]
  simp only [testBit_spanBits, decide_eq_true_eq]
  constructor
  · intro h
    exact ⟨c.toNat, h, le_rfl, le_rfl⟩
  · rintro ⟨d, hd, hle, hge⟩
    rwa [le_antisymm hge hle]

theorem decompose_of_mem (h : d ∈ decompose c) : decompose d = [d] := by
  obtain ⟨n, hn, rfl⟩ := List.mem_map.mp h
  rcases toNat_ofNat_or n with hnat | hnul
  · rw [decompose, hnat, (decomposition_of_mem hn).1, List.map_singleton]
  · rw [hnul]
    exact (isStarter_of_lt (by decide)).1

theorem isBreak_of_mem_decompose (h : d ∈ decompose c) (hbreak : isBreak d = true) : d = c := by
  obtain ⟨n, hn, rfl⟩ := List.mem_map.mp h
  rcases toNat_ofNat_or n with hnat | hnul
  · rw [isBreak_eq, hnat] at hbreak
    rcases (decomposition_of_mem hn).2 with rfl | hnone
    · exact Char.ofNat_toNat c
    · rw [hbreak] at hnone
      cases hnone
  · rw [hnul] at hbreak
    cases hbreak

end Characters

section Marks

theorem runs_within_marks :
    unionBits (fun run => spanBits run.1 run.2.1) combiningRuns |||
        unionBits (fun range => spanBits range.1 range.2) markRanges =
      unionBits (fun range => spanBits range.1 range.2) markRanges := by
  decide +kernel

theorem markRanges_sorted : (markRanges.map Prod.fst).Pairwise (· ≤ ·) :=
  List.isChain_iff_pairwise.mp (by decide +kernel)

theorem classIn_eq_zero {runs : List (ℕ × ℕ × ℕ)} {c : ℕ}
    (h : (unionBits (fun run => spanBits run.1 run.2.1) runs).testBit c = false) :
    classIn runs c = 0 := by
  induction runs with
  | nil => rfl
  | cons run runs ih =>
    obtain ⟨first, last, k⟩ := run
    simp only [unionBits, Nat.testBit_or, Bool.or_eq_false_iff, testBit_spanBits,
      decide_eq_false_iff_not] at h
    rw [classIn, ih h.2]
    split_ifs with hfirst hlast
    · rfl
    · exact absurd ⟨by omega, hlast⟩ h.1
    · rfl

theorem covers_of_testBit {ranges : List (ℕ × ℕ)} {c : ℕ}
    (hsorted : (ranges.map Prod.fst).Pairwise (· ≤ ·))
    (h : (unionBits (fun range => spanBits range.1 range.2) ranges).testBit c = true) :
    covers ranges c = true := by
  induction ranges with
  | nil => simp [unionBits] at h
  | cons range ranges ih =>
    obtain ⟨first, last⟩ := range
    rw [List.map_cons, List.pairwise_cons] at hsorted
    simp only [unionBits, Nat.testBit_or, Bool.or_eq_true, testBit_spanBits, decide_eq_true_eq] at h
    rcases h with ⟨hfirst, hlast⟩ | hrest
    · simp [covers, hlast, Nat.not_lt.mpr hfirst]
    · obtain ⟨later, hmem, hbit⟩ := (testBit_unionBits _ _ c).mp hrest
      rw [testBit_spanBits, decide_eq_true_eq] at hbit
      have hle := hsorted.1 later.1 (List.mem_map_of_mem hmem)
      have hfirst : ¬c < first := by omega
      simp [covers, hfirst, ih hsorted.2 hrest]

theorem combiningClass_eq_zero {c : Char} (h : isMark c = false) : combiningClass c = 0 := by
  apply classIn_eq_zero
  rw [← Bool.not_eq_true] at h ⊢
  intro hrun
  exact h (covers_of_testBit markRanges_sorted (testBit_of_subset runs_within_marks hrun))

end Marks

end PromptRelay.Unicode
