import Mathlib.Data.List.DropRight
import PromptRelay.Proofs.Line.FailureMark
import PromptRelay.Proofs.Line.Terminator

namespace PromptRelay

def IsAscii (bytes : List UInt8) : Prop :=
  ∀ b ∈ bytes, b < 0x80

theorem isAscii_append {xs ys : List UInt8} : IsAscii (xs ++ ys) ↔ IsAscii xs ∧ IsAscii ys :=
  List.forall_mem_append

namespace Utf8

theorem isAscii_utf8EncodeChar (c : Char) : IsAscii (String.utf8EncodeChar c) ↔ c.toNat < 0x80 := by
  have hbyte (n : ℕ) : UInt8.ofNat n < 0x80 ↔ n % 256 < 128 := by
    rw [UInt8.lt_iff_toNat_lt, UInt8.toNat_ofNat']
    rfl
  rw [utf8EncodeChar_eq]
  split_ifs with hone htwo hthree
  all_goals
    simp only [IsAscii, List.forall_mem_cons, List.not_mem_nil, false_implies, implies_true,
      and_true, hbyte]
    omega

theorem isAscii_encode (s : List Char) : IsAscii (encode s) ↔ ∀ c ∈ s, c.toNat < 0x80 := by
  simp only [← isAscii_utf8EncodeChar, IsAscii, encode, List.forall_mem_flatMap]

end Utf8

namespace Unicode

theorem mem_insertMark {c d : Char} {s : List Char} : d ∈ insertMark c s ↔ d = c ∨ d ∈ s := by
  induction s with
  | nil => simp [insertMark]
  | cons e s ih =>
    rw [insertMark]
    split_ifs with hbefore
    · rw [List.mem_cons, ih, List.mem_cons]
      exact or_left_comm
    · exact List.mem_cons

theorem mem_canonicalOrder {c : Char} {s : List Char} : c ∈ canonicalOrder s ↔ c ∈ s := by
  induction s with
  | nil => rfl
  | cons d s ih =>
    rw [canonicalOrder] at ih
    rw [canonicalOrder, List.foldr_cons, mem_insertMark, ih, List.mem_cons]

theorem mem_nfkd {d : Char} {s : List Char} : d ∈ nfkd s ↔ ∃ c ∈ s, d ∈ decompose c := by
  rw [nfkd, mem_canonicalOrder, List.mem_flatMap]

theorem exists_last_visible (s : List Char) : (∀ c ∈ s, isWhiteSpace c = true) ∨
    ∃ before c after, s = before ++ c :: after ∧ isWhiteSpace c = false ∧
      ∀ d ∈ after, isWhiteSpace d = true := by
  induction s with
  | nil => exact .inl nofun
  | cons c s ih =>
    rcases ih with hblank | ⟨before, last, after, rfl, hlast, hafter⟩
    · cases hc : isWhiteSpace c with
      | true => exact .inl (List.forall_mem_cons.mpr ⟨hc, hblank⟩)
      | false => exact .inr ⟨[], c, s, rfl, hc, hblank⟩
    · exact .inr ⟨c :: before, last, after, rfl, hlast, hafter⟩

theorem trimEnd_eq_nil_iff {s : List Char} : trimEnd s = [] ↔ ∀ c ∈ s, isWhiteSpace c = true :=
  List.rdropWhile_eq_nil_iff

theorem mem_trimStart_or {c : Char} {s : List Char} (h : c ∈ s) :
    c ∈ trimStart s ∨ isWhiteSpace c = true := by
  rw [← List.takeWhile_append_dropWhile (p := isWhiteSpace) (l := s), List.mem_append] at h
  exact h.symm.imp id List.mem_takeWhile_imp

theorem mem_trim_or {c : Char} {s : List Char} (h : c ∈ s) :
    c ∈ trim s ∨ isWhiteSpace c = true := by
  rcases mem_trimStart_or h with hstart | hblank
  · rw [← List.mem_reverse] at hstart
    have hend := mem_trimStart_or hstart
    rwa [← List.mem_reverse] at hend
  · exact .inr hblank

end Unicode

theorem isWhiteSpace_of_isBreak {c : Char} (h : isBreak c = true) :
    Unicode.isWhiteSpace c = true := by
  have hall : [0x0A, 0x0D, 0x0B, 0x0C, 0x85, 0x2028, 0x2029].all
      (Unicode.covers Unicode.whiteSpaceRanges) = true := by decide
  exact List.all_eq_true.mp hall c.toNat (List.contains_iff_mem.mp h)

theorem foldBreaks_cons_of_ne {c : Char} (s : List Char) (h : isBreak c = false) :
    foldBreaks (c :: s) = c :: foldBreaks s := by
  have hsingle : ∀ d ∈ [c], isBreak d = false := List.forall_mem_singleton.mpr h
  exact foldBreaks_append hsingle s

theorem foldBreaks_append_cons {c : Char} (h : isBreak c = false) (before after : List Char) :
    foldBreaks (before ++ c :: after) = foldBreaks before ++ c :: foldBreaks after := by
  induction before using foldBreaks.induct with
  | case1 => exact foldBreaks_cons_of_ne after h
  | case2 s ih =>
    rw [List.cons_append, List.cons_append, foldBreaks, ih, foldBreaks, List.cons_append]
  | case3 d s hpair ih =>
    rw [foldBreaks.eq_3 d s hpair, List.cons_append, foldBreaks, ih, List.cons_append]
    -- The character is no line feed, so no pair is made where the texts meet.
    rintro t hd hs
    cases s with
    | nil =>
      obtain ⟨rfl, -⟩ := List.cons.inj hs
      cases h
    | cons e s => exact hpair s hd (congrArg (· :: s) (List.cons.inj hs).1)

theorem foldBreaks_of_blank {s : List Char} (h : ∀ c ∈ s, Unicode.isWhiteSpace c = true) :
    ∀ c ∈ foldBreaks s, Unicode.isWhiteSpace c = true := by
  have hspace : Unicode.isWhiteSpace ' ' = true := rfl
  induction s using foldBreaks.induct with
  | case1 => exact List.forall_mem_nil _
  | case2 s ih =>
    rw [List.forall_mem_cons, List.forall_mem_cons] at h
    rw [foldBreaks, List.forall_mem_cons]
    exact ⟨hspace, ih h.2.2⟩
  | case3 c s hpair ih =>
    rw [List.forall_mem_cons] at h
    rw [foldBreaks.eq_3 c s hpair, List.forall_mem_cons]
    refine ⟨?_, ih h.2⟩
    split_ifs with hc
    · exact hspace
    · exact h.1

theorem trimStart_foldBreaks (s : List Char) :
    Unicode.trimStart (foldBreaks s) = foldBreaks (Unicode.trimStart s) := by
  have hspace : Unicode.isWhiteSpace ' ' = true := rfl
  have hblank {c : Char} (t : List Char) (hc : Unicode.isWhiteSpace c = true) :
      Unicode.trimStart (c :: t) = Unicode.trimStart t :=
    List.dropWhile_cons_of_pos hc
  induction s using foldBreaks.induct with
  | case1 => rfl
  | case2 s ih => rw [foldBreaks, hblank _ hspace, ih, hblank _ rfl, hblank _ rfl]
  | case3 c s hpair ih =>
    rw [foldBreaks.eq_3 c s hpair]
    split_ifs with hc
    · rw [hblank _ hspace, ih, hblank s (isWhiteSpace_of_isBreak hc)]
    · cases hwhite : Unicode.isWhiteSpace c with
      | true => rw [hblank _ hwhite, ih, hblank s hwhite]
      | false =>
        have hstop (t : List Char) : Unicode.trimStart (c :: t) = c :: t :=
          List.dropWhile_cons_of_neg (by simp [hwhite])
        rw [hstop, hstop, foldBreaks_cons_of_ne s (eq_false_of_ne_true hc)]

theorem trimEnd_foldBreaks (s : List Char) :
    Unicode.trimEnd (foldBreaks s) = foldBreaks (Unicode.trimEnd s) := by
  rcases Unicode.exists_last_visible s with hblank | ⟨before, c, after, rfl, hc, hafter⟩
  · rw [Unicode.trimEnd_eq_nil_iff.mpr hblank,
      Unicode.trimEnd_eq_nil_iff.mpr (foldBreaks_of_blank hblank)]
    rfl
  · have hbreak : isBreak c = false := by
      cases hbreak : isBreak c with
      | false => rfl
      | true => rw [isWhiteSpace_of_isBreak hbreak] at hc; cases hc
    rw [foldBreaks_append_cons hbreak, Unicode.trimEnd_append_cons hc,
      Unicode.trimEnd_append_cons hc, Unicode.trimEnd_eq_nil_iff.mpr hafter,
      Unicode.trimEnd_eq_nil_iff.mpr (foldBreaks_of_blank hafter), foldBreaks_append_cons hbreak]
    rfl

theorem trim_foldBreaks (s : List Char) :
    Unicode.trim (foldBreaks s) = foldBreaks (Unicode.trim s) := by
  rw [Unicode.trim, trimStart_foldBreaks, trimEnd_foldBreaks, ← Unicode.trim]

theorem foldBreaks_ascii_iff (s : List Char) : (∀ c ∈ foldBreaks s, c.toNat < 0x80) ↔
    ∀ c ∈ s, c.toNat < 0x80 ∨ isBreak c = true := by
  have hspace : ' '.toNat < 0x80 := by decide
  induction s using foldBreaks.induct with
  | case1 => simp [foldBreaks]
  | case2 s ih =>
    have hreturn : isBreak '\r' = true := rfl
    have hfeed : isBreak '\n' = true := rfl
    simp only [foldBreaks, List.forall_mem_cons, ih, hspace, hreturn, hfeed, or_true, true_and]
  | case3 c s hpair ih =>
    rw [foldBreaks.eq_3 c s hpair, List.forall_mem_cons, List.forall_mem_cons]
    refine and_congr ?_ ih
    split_ifs with hc
    · simp only [hspace, hc, or_true]
    · simp only [hc, Bool.false_eq_true, or_false]

def unmarked (s : List Char) : List Char :=
  Unicode.trim ((Unicode.nfkd s).filter fun c => !Unicode.isMark c)

def BecomesAscii (raw : String) : Prop :=
  ∀ c ∈ unmarked raw.toList, c.toNat < 0x80 ∨ isBreak c = true

theorem normalize_eq (s : List Char) : normalize s = foldBreaks (unmarked s) :=
  trim_foldBreaks _

namespace Line

theorem isAscii_bytes (raw : String) : IsAscii (ofReply raw).bytes ↔ BecomesAscii raw := by
  have hend : IsAscii [0x0A] := List.forall_mem_singleton.mpr (by decide)
  rw [bytes, isAscii_append, Utf8.isAscii_encode, ofReply, String.toList_ofList, normalize_eq,
    foldBreaks_ascii_iff]
  exact and_iff_left hend

end Line

theorem becomesAscii_of_decompose {raw : String} (h : ∀ c ∈ raw.toList, ∀ d ∈ Unicode.decompose c,
    d.toNat < 0x80 ∨ Unicode.isMark d = true ∨ isBreak d = true) : BecomesAscii raw := by
  intro d hd
  obtain ⟨hmem, hunmarked⟩ := List.mem_filter.mp (trim_subset _ hd)
  obtain ⟨c, hc, hdecompose⟩ := Unicode.mem_nfkd.mp hmem
  rcases h c hc d hdecompose with hlow | hmark | hbreak
  · exact .inl hlow
  · rw [hmark] at hunmarked
    cases hunmarked
  · exact .inr hbreak

theorem becomesAscii_of_ascii {raw : String} (h : ∀ c ∈ raw.toList, c.toNat < 0x80) :
    BecomesAscii raw := by
  apply becomesAscii_of_decompose
  intro c hc d hd
  have hlow := h c hc
  obtain ⟨hself, -⟩ : Unicode.IsStarter c := Unicode.isStarter_of_lt (by omega)
  rw [hself, List.mem_singleton] at hd
  rw [hd]
  exact .inl hlow

theorem BecomesAscii.decompose {raw : String} (h : BecomesAscii raw) {c d : Char}
    (hc : c ∈ raw.toList) (hd : d ∈ Unicode.decompose c) :
    d.toNat < 0x80 ∨ Unicode.isMark d = true ∨ Unicode.isWhiteSpace d = true := by
  cases hmark : Unicode.isMark d with
  | true => exact .inr (.inl rfl)
  | false =>
    have hmem : d ∈ (Unicode.nfkd raw.toList).filter fun c => !Unicode.isMark c :=
      List.mem_filter.mpr ⟨Unicode.mem_nfkd.mpr ⟨c, hc, hd⟩, by rw [hmark]; rfl⟩
    rcases Unicode.mem_trim_or hmem with hkept | hblank
    · rcases h d hkept with hlow | hbreak
      · exact .inl hlow
      · exact .inr (.inr (isWhiteSpace_of_isBreak hbreak))
    · exact .inr (.inr hblank)

end PromptRelay
