import Mathlib.Data.Nat.Find
import PromptRelay.Utf8.Decoder

namespace PromptRelay.Utf8

/-- The rows of the table: for each byte of a sequence, the first and last value it may have. -/
def sequenceTable : List (List (UInt8 × UInt8)) :=
  [[(0x00, 0x7F)],
   [(0xC2, 0xDF), (0x80, 0xBF)],
   [(0xE0, 0xE0), (0xA0, 0xBF), (0x80, 0xBF)],
   [(0xE1, 0xEC), (0x80, 0xBF), (0x80, 0xBF)],
   [(0xED, 0xED), (0x80, 0x9F), (0x80, 0xBF)],
   [(0xEE, 0xEF), (0x80, 0xBF), (0x80, 0xBF)],
   [(0xF0, 0xF0), (0x90, 0xBF), (0x80, 0xBF), (0x80, 0xBF)],
   [(0xF1, 0xF3), (0x80, 0xBF), (0x80, 0xBF), (0x80, 0xBF)],
   [(0xF4, 0xF4), (0x80, 0x8F), (0x80, 0xBF), (0x80, 0xBF)]]

def fits : List UInt8 → List (UInt8 × UInt8) → Bool
  | [], _ => true
  | _ :: _, [] => false
  | b :: bs, (first, last) :: row => (first ≤ b && b ≤ last) && fits bs row

def IsWellFormed (bs : List UInt8) : Prop :=
  ∃ row ∈ sequenceTable, fits bs row ∧ bs.length = row.length

def IsBeginning (bs : List UInt8) : Prop :=
  bs ≠ [] ∧ ∃ row ∈ sequenceTable, fits bs row ∧ bs.length < row.length

instance (bs : List UInt8) : Decidable (IsWellFormed bs) :=
  inferInstanceAs (Decidable (∃ row ∈ sequenceTable, fits bs row ∧ bs.length = row.length))

instance (bs : List UInt8) : Decidable (IsBeginning bs) :=
  inferInstanceAs (Decidable (bs ≠ [] ∧ ∃ row ∈ sequenceTable, fits bs row ∧
    bs.length < row.length))

theorem isTrail_iff (b : UInt8) : isTrail b = true ↔ 0x80 ≤ b.toNat ∧ b.toNat ≤ 0xBF := by
  simp [isTrail, UInt8.le_iff_toNat_le]

theorem isSecond_iff (a b : UInt8) : isSecond a b = true ↔
    0xC2 ≤ a.toNat ∧ a.toNat ≤ 0xF4 ∧ 0x80 ≤ b.toNat ∧ b.toNat ≤ 0xBF ∧
      (a.toNat = 0xE0 → 0xA0 ≤ b.toNat) ∧ (a.toNat = 0xED → b.toNat ≤ 0x9F) ∧
      (a.toNat = 0xF0 → 0x90 ≤ b.toNat) ∧ (a.toNat = 0xF4 → b.toNat ≤ 0x8F) := by
  simp only [isSecond, isTrail, ← UInt8.toNat_inj, UInt8.le_iff_toNat_le]
  split_ifs <;> simp_all <;> omega

theorem shape_eq_start_iff (bs : List UInt8) : shape bs = .start ↔ IsBeginning bs := by
  match bs with
  | [] => simp [shape, IsBeginning]
  | [a] =>
    simp [shape, IsBeginning, sequenceTable, fits, UInt8.le_iff_toNat_le, UInt8.lt_iff_toNat_lt]
    grind
  | [a, b] =>
    have hb := isSecond_iff a b
    simp [shape, IsBeginning, sequenceTable, fits, UInt8.le_iff_toNat_le, UInt8.lt_iff_toNat_lt]
    grind
  | [a, b, c] =>
    have hb := isSecond_iff a b
    have hc := isTrail_iff c
    simp [shape, IsBeginning, sequenceTable, fits, UInt8.le_iff_toNat_le, UInt8.lt_iff_toNat_lt]
    grind
  | [a, b, c, d] =>
    simp [shape, IsBeginning, sequenceTable, fits]
    grind
  | a :: b :: c :: d :: e :: bs => simp [shape, IsBeginning, sequenceTable, fits]

theorem isWellFormed_iff_shape_ne (bs : List UInt8) :
    IsWellFormed bs ↔ shape bs ≠ .start ∧ shape bs ≠ .broken := by
  match bs with
  | [] => simp [shape, IsWellFormed, sequenceTable]
  | [a] =>
    simp [shape, IsWellFormed, sequenceTable, fits, UInt8.le_iff_toNat_le, UInt8.lt_iff_toNat_lt]
    grind
  | [a, b] =>
    have hb := isSecond_iff a b
    simp [shape, IsWellFormed, sequenceTable, fits, UInt8.le_iff_toNat_le, UInt8.lt_iff_toNat_lt]
    grind
  | [a, b, c] =>
    have hb := isSecond_iff a b
    have hc := isTrail_iff c
    simp [shape, IsWellFormed, sequenceTable, fits, UInt8.le_iff_toNat_le, UInt8.lt_iff_toNat_lt]
    grind
  | [a, b, c, d] =>
    have hb := isSecond_iff a b
    have hc := isTrail_iff c
    have hd := isTrail_iff d
    simp [shape, IsWellFormed, sequenceTable, fits, UInt8.le_iff_toNat_le]
    grind
  | a :: b :: c :: d :: e :: bs => simp [shape, IsWellFormed, sequenceTable, fits]

theorem toNat_ofNat_of_isValidChar {n : ℕ} (h : n.isValidChar) : (Char.ofNat n).toNat = n := by
  rw [Char.ofNat, dif_pos h]
  rfl

theorem utf8EncodeChar_eq (c : Char) : String.utf8EncodeChar c =
    if c.toNat ≤ 0x7F then [.ofNat c.toNat]
    else if c.toNat ≤ 0x7FF then
      [.ofNat (c.toNat / 64 % 32 + 0xC0), .ofNat (c.toNat % 64 + 0x80)]
    else if c.toNat ≤ 0xFFFF then
      [.ofNat (c.toNat / 4096 % 16 + 0xE0), .ofNat (c.toNat / 64 % 64 + 0x80),
        .ofNat (c.toNat % 64 + 0x80)]
    else
      [.ofNat (c.toNat / 262144 % 8 + 0xF0), .ofNat (c.toNat / 4096 % 64 + 0x80),
        .ofNat (c.toNat / 64 % 64 + 0x80), .ofNat (c.toNat % 64 + 0x80)] := rfl

theorem utf8EncodeChar_of_shape {bs : List UInt8} {c : Char} (h : shape bs = .whole c) :
    String.utf8EncodeChar c = bs := by
  match bs with
  | [] => simp [shape] at h
  | [a] =>
    simp only [shape, UInt8.lt_iff_toNat_lt] at h
    split_ifs at h with ha
    obtain rfl := Shape.whole.inj h
    have ha' : a.toNat ≤ 0x7F := by simp at ha; omega
    have hn := toNat_ofNat_of_isValidChar (n := a.toNat) (.inl (by omega))
    rw [utf8EncodeChar_eq, hn, if_pos ha']
    simp
  | [a, b] =>
    simp only [shape, UInt8.lt_iff_toNat_lt, bits] at h
    split_ifs at h with hs ha
    obtain rfl := Shape.whole.inj h
    simp [isSecond_iff] at hs ha
    have hn := toNat_ofNat_of_isValidChar (n := a.toNat % 32 * 64 + b.toNat % 64)
      (.inl (by omega))
    rw [utf8EncodeChar_eq, hn, if_neg (by omega), if_pos (by omega)]
    simp only [List.cons.injEq, UInt8.ofNat_eq_iff_mod_eq_toNat, and_true]
    omega
  | [a, b, d] =>
    simp only [shape, UInt8.lt_iff_toNat_lt, bits] at h
    split_ifs at h with hs ha
    obtain rfl := Shape.whole.inj h
    simp [isSecond_iff, isTrail_iff, UInt8.le_iff_toNat_le] at hs ha
    have hn := toNat_ofNat_of_isValidChar
      (n := (a.toNat % 16 * 64 + b.toNat % 64) * 64 + d.toNat % 64)
      (by unfold Nat.isValidChar; omega)
    rw [utf8EncodeChar_eq, hn, if_neg (by omega), if_neg (by omega), if_pos (by omega)]
    simp only [List.cons.injEq, UInt8.ofNat_eq_iff_mod_eq_toNat, and_true]
    omega
  | [a, b, d, e] =>
    simp only [shape, bits] at h
    split_ifs at h with hs
    obtain rfl := Shape.whole.inj h
    simp [isSecond_iff, isTrail_iff, UInt8.le_iff_toNat_le] at hs
    have hn := toNat_ofNat_of_isValidChar
      (n := ((a.toNat % 8 * 64 + b.toNat % 64) * 64 + d.toNat % 64) * 64 + e.toNat % 64)
      (by unfold Nat.isValidChar; omega)
    rw [utf8EncodeChar_eq, hn, if_neg (by omega), if_neg (by omega), if_neg (by omega)]
    simp only [List.cons.injEq, UInt8.ofNat_eq_iff_mod_eq_toNat, and_true]
    omega
  | _ :: _ :: _ :: _ :: _ :: _ => simp [shape] at h

theorem isWellFormed_utf8EncodeChar (c : Char) : IsWellFormed (String.utf8EncodeChar c) := by
  have hv : c.toNat < 0xD800 ∨ 0xDFFF < c.toNat ∧ c.toNat < 0x110000 := c.valid
  rw [utf8EncodeChar_eq]
  split_ifs <;>
    simp [IsWellFormed, sequenceTable, fits, UInt8.le_iff_toNat_le] <;> omega

theorem utf8EncodeChar_injective : Function.Injective String.utf8EncodeChar := by
  intro c d h
  have hc := ByteArray.utf8DecodeChar?_utf8EncodeChar_append (b := ∅) (c := c)
  rw [h, ByteArray.utf8DecodeChar?_utf8EncodeChar_append] at hc
  exact (Option.some.inj hc).symm

theorem exists_shape_eq_whole {bs : List UInt8} (h : IsWellFormed bs) :
    ∃ c, shape bs = .whole c := by
  obtain ⟨hstart, hbroken⟩ := (isWellFormed_iff_shape_ne bs).mp h
  cases hs : shape bs with
  | whole c => exact ⟨c, rfl⟩
  | start => exact absurd hs hstart
  | broken => exact absurd hs hbroken

theorem isWellFormed_iff (bs : List UInt8) :
    IsWellFormed bs ↔ ∃ c, String.utf8EncodeChar c = bs := by
  constructor
  · intro h
    obtain ⟨c, hc⟩ := exists_shape_eq_whole h
    exact ⟨c, utf8EncodeChar_of_shape hc⟩
  · rintro ⟨c, rfl⟩
    exact isWellFormed_utf8EncodeChar c

theorem shape_eq_whole_iff (bs : List UInt8) (c : Char) :
    shape bs = .whole c ↔ String.utf8EncodeChar c = bs := by
  constructor
  · exact utf8EncodeChar_of_shape
  · rintro rfl
    obtain ⟨d, hd⟩ := exists_shape_eq_whole (isWellFormed_utf8EncodeChar c)
    rw [hd, utf8EncodeChar_injective (utf8EncodeChar_of_shape hd)]

theorem shape_eq_broken_iff (bs : List UInt8) :
    shape bs = .broken ↔ ¬IsWellFormed bs ∧ ¬IsBeginning bs := by
  rw [isWellFormed_iff_shape_ne, ← shape_eq_start_iff]
  cases shape bs <;> simp

theorem IsBeginning.not_isWellFormed {bs : List UInt8} (h : IsBeginning bs) :
    ¬IsWellFormed bs :=
  fun hw => ((isWellFormed_iff_shape_ne bs).mp hw).1 ((shape_eq_start_iff bs).mpr h)

theorem fits_append {xs ys : List UInt8} {row : List (UInt8 × UInt8)}
    (h : fits (xs ++ ys) row = true) : fits xs row = true := by
  induction xs generalizing row with
  | nil => rfl
  | cons x xs ih =>
    cases row with
    | nil => simp [fits] at h
    | cons r row =>
      simp only [List.cons_append, fits, Bool.and_eq_true] at h ⊢
      exact ⟨h.1, ih h.2⟩

theorem IsBeginning.of_append {xs ys : List UInt8} (h : IsBeginning (xs ++ ys)) (hx : xs ≠ []) :
    IsBeginning xs := by
  obtain ⟨_, row, hrow, hfit, hlen⟩ := h
  rw [List.length_append] at hlen
  exact ⟨hx, row, hrow, fits_append hfit, by omega⟩

theorem IsWellFormed.isBeginning {xs ys : List UInt8} (h : IsWellFormed (xs ++ ys))
    (hx : xs ≠ []) (hy : ys ≠ []) : IsBeginning xs := by
  obtain ⟨row, hrow, hfit, hlen⟩ := h
  have hpos := List.length_pos_iff.mpr hy
  rw [List.length_append] at hlen
  exact ⟨hx, row, hrow, fits_append hfit, by omega⟩

theorem IsBeginning.length_le {bs : List UInt8} (h : IsBeginning bs) : bs.length ≤ 3 := by
  obtain ⟨_, row, hrow, _, hlen⟩ := h
  have hrows : ∀ row ∈ sequenceTable, row.length ≤ 4 := by decide
  have := hrows row hrow
  omega

end PromptRelay.Utf8
