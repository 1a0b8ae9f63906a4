import PromptRelay.Binary.Layout
import PromptRelay.Binary.Reader
import PromptRelay.Proofs.Binary.Shortest
import PromptRelay.Proofs.Text.Digits

namespace PromptRelay.Binary

open Text (readSign)

structure Spelling where
  whole : List Char
  fraction : List Char
  exponent : Option ℤ

namespace Spelling

def fractionChars : List Char → List Char
  | [] => []
  | d :: ds => '.' :: d :: ds

theorem fractionChars_of_ne_nil {ds : List Char} (h : ds ≠ []) : fractionChars ds = '.' :: ds := by
  cases ds with
  | nil => exact absurd rfl h
  | cons d ds => rfl

def exponentChars : Option ℤ → List Char
  | none => []
  | some e => 'e' :: (if e < 0 then '-' else '+') :: Nat.toDigits 10 e.natAbs

def chars (s : Spelling) : List Char :=
  s.whole ++ (fractionChars s.fraction ++ exponentChars s.exponent)

def decimal (s : Spelling) : Decimal :=
  .ofParts s.whole s.fraction (s.exponent.getD 0)

structure Regular (s : Spelling) : Prop where
  whole_ne : s.whole ≠ []
  whole_digits : ∀ c ∈ s.whole, c.isDigit = true
  lead : ∀ d t, s.whole ≠ '0' :: d :: t
  fraction_digits : ∀ c ∈ s.fraction, c.isDigit = true
  parted : s.fraction ≠ [] ∨ s.exponent ≠ none

variable {s : Spelling}

theorem head?_exponentChars (e : Option ℤ) : ∀ c ∈ (exponentChars e).head?, c = 'e' := by
  cases e with
  | none => exact nofun
  | some e =>
    rintro c ⟨⟩
    rfl

theorem readExponent?_exponentChars (e : Option ℤ) :
    readExponent? (exponentChars e) = some (e.getD 0) := by
  cases e with
  | none => rfl
  | some e =>
    have hne : (Nat.toDigits 10 e.natAbs).isEmpty = false := by
      simp [Nat.toDigits_ne_nil]
    have hdigits : (Nat.toDigits 10 e.natAbs).all Char.isDigit = true :=
      List.all_eq_true.mpr (isDigit_toDigits _)
    have hvalue : Decimal.ofDigits (Nat.toDigits 10 e.natAbs) = e.natAbs :=
      Nat.ofDigitChars_ten_toDigits
    have hdigits' : ((Nat.toDigits 10 e.natAbs).isEmpty ||
        !(Nat.toDigits 10 e.natAbs).all Char.isDigit) = false := by
      rw [hne, hdigits]
      rfl
    rw [exponentChars, readExponent?, if_pos (Or.inl rfl)]
    by_cases hneg : e < 0
    · simp only [if_pos hneg, readSign, hdigits', hvalue]
      exact congrArg some (show -(e.natAbs : ℤ) = e by omega)
    · simp only [if_neg hneg, readSign, hdigits', hvalue]
      exact congrArg some (show (e.natAbs : ℤ) = e by omega)

theorem not_digit_of_mem_head? (e : Option ℤ) :
    ∀ c ∈ (exponentChars e).head?, c.isDigit = false := by
  intro c hc
  rw [head?_exponentChars e c hc]
  rfl

theorem not_digit_of_mem_head?_tail (s : Spelling) :
    ∀ c ∈ (fractionChars s.fraction ++ exponentChars s.exponent).head?, c.isDigit = false := by
  cases s.fraction with
  | nil => exact not_digit_of_mem_head? s.exponent
  | cons d ds =>
    rintro c ⟨⟩
    rfl

theorem readDecimal?_chars (h : s.Regular) : readDecimal? s.chars = some s.decimal := by
  have hwhole : s.chars.takeWhile Char.isDigit = s.whole :=
    takeWhile_run h.whole_digits (not_digit_of_mem_head?_tail s)
  have htail : s.chars.dropWhile Char.isDigit =
      fractionChars s.fraction ++ exponentChars s.exponent :=
    dropWhile_run h.whole_digits (not_digit_of_mem_head?_tail s)
  have hempty : s.whole.isEmpty = false := by simp [h.whole_ne]
  have hread := readExponent?_exponentChars s.exponent
  rw [readDecimal?, hwhole, htail, hempty, decimal]
  cases hfraction : s.fraction with
  | nil =>
    rw [fractionChars, List.nil_append]
    cases hexponent : exponentChars s.exponent with
    | nil =>
      rw [hexponent] at hread
      simp [hread]
    | cons c t =>
      obtain rfl : c = 'e' := head?_exponentChars s.exponent c (by rw [hexponent]; rfl)
      rw [hexponent] at hread
      simp [hread]
  | cons d ds =>
    have hdigits := h.fraction_digits
    have hends := not_digit_of_mem_head? s.exponent
    rw [hfraction] at hdigits
    rw [fractionChars, List.cons_append]
    simp only [takeWhile_run hdigits hends, dropWhile_run hdigits hends, hread]
    rfl

structure Spells (s : Spelling) (d : Decimal) : Prop where
  regular : s.Regular
  value : s.decimal.value = d.value
  whole_le : (s.whole.length : ℤ) ≤ max 1 d.size
  exponent_le : s.exponent.getD 0 ≤ max 0 (d.size - 1)

theorem value_decimal (s : Spelling) : s.decimal.value =
    (Nat.ofDigitChars 10 (s.whole ++ s.fraction) 0 : ℚ) *
      10 ^ (s.exponent.getD 0 - s.fraction.length) :=
  rfl

end Spelling

open Spelling

variable {l : Layout} {d : Decimal} {f : Format} {m : ℕ} {e : ℤ}

theorem isDigit_zeros (n : ℕ) : ∀ c ∈ List.replicate n '0', c.isDigit = true := by
  intro c hc
  rw [List.eq_of_mem_replicate hc]
  rfl

theorem spells_whole (hd : d.digits ≠ 0) (he : 0 ≤ d.exponent) :
    Spells ⟨Nat.toDigits 10 d.digits ++ List.replicate d.exponent.toNat '0', ['0'], none⟩ d where
  regular := {
    whole_ne := by simp [Nat.toDigits_ne_nil]
    whole_digits := List.forall_mem_append.mpr ⟨isDigit_toDigits _, isDigit_zeros _⟩
    lead := by
      obtain ⟨c, t, hct, hc⟩ := exists_toDigits hd
      rintro d' t' h
      rw [hct, List.cons_append] at h
      exact hc (List.cons.inj h).1
    fraction_digits := isDigit_zeros 1
    parted := .inl (List.cons_ne_nil _ _) }
  value := by
    obtain ⟨k, hk⟩ := Int.eq_ofNat_of_zero_le he
    rw [value_decimal, Decimal.value, hk]
    simp only [Nat.ofDigitChars_append, Nat.ofDigitChars_replicate_zero,
      Nat.ofDigitChars_ten_toDigits, Int.toNat_natCast, zpow_natCast]
    simp [Nat.ofDigitChars_cons]
    ring
  whole_le := by
    refine le_max_of_le_right ?_
    rw [List.length_append, List.length_replicate, Decimal.size]
    omega
  exponent_le := le_max_left _ _

theorem spells_split (whole places : ℕ) (he : d.exponent = -places) (hplaces : 0 < places)
    (hwhole : 0 < whole) (hlength : (Nat.toDigits 10 d.digits).length = whole + places) :
    Spells
      ⟨(Nat.toDigits 10 d.digits).take whole, (Nat.toDigits 10 d.digits).drop whole, none⟩ d where
  regular := {
    whole_ne := by
      rw [← List.length_pos_iff, List.length_take]
      omega
    whole_digits := fun c hc => isDigit_toDigits _ c (List.mem_of_mem_take hc)
    lead := by
      intro c t h
      have hsplit := List.take_append_drop whole (Nat.toDigits 10 d.digits)
      dsimp only at h
      rw [h, List.cons_append, List.cons_append] at hsplit
      exact toDigits_ne_zero_cons _ _ _ hsplit.symm
    fraction_digits := fun c hc => isDigit_toDigits _ c (List.mem_of_mem_drop hc)
    parted := by
      left
      rw [← List.length_pos_iff, List.length_drop]
      omega }
  value := by
    have hfraction : ((Nat.toDigits 10 d.digits).drop whole).length = places := by
      rw [List.length_drop]
      omega
    rw [value_decimal, Decimal.value, List.take_append_drop, Nat.ofDigitChars_ten_toDigits,
      hfraction, he, Option.getD_none, zero_sub]
  whole_le := by
    refine le_max_of_le_right ?_
    rw [List.length_take, Decimal.size]
    omega
  exponent_le := le_max_left _ _

theorem spells_small (zeros : ℕ) (he : d.exponent = -(zeros + (Nat.toDigits 10 d.digits).length)) :
    Spells ⟨['0'], List.replicate zeros '0' ++ Nat.toDigits 10 d.digits, none⟩ d where
  regular := {
    whole_ne := List.cons_ne_nil _ _
    whole_digits := isDigit_zeros 1
    lead := nofun
    fraction_digits := List.forall_mem_append.mpr ⟨isDigit_zeros _, isDigit_toDigits _⟩
    parted := .inl (by simp [Nat.toDigits_ne_nil]) }
  value := by
    have hzero : Nat.ofDigitChars 10 ['0'] 0 = 0 := rfl
    rw [value_decimal, Decimal.value, Nat.ofDigitChars_append, Nat.ofDigitChars_append, hzero,
      Nat.ofDigitChars_replicate_zero, Nat.mul_zero, Nat.ofDigitChars_ten_toDigits,
      List.length_append, List.length_replicate, he, Option.getD_none, zero_sub, Nat.cast_add]
  whole_le := le_max_left _ _
  exponent_le := le_max_left _ _

theorem spells_exponent {c : Char} {t : List Char} (hd : Nat.toDigits 10 d.digits = c :: t) :
    Spells ⟨[c], t, some (d.size - 1)⟩ d where
  regular := by
    have hdigits := isDigit_toDigits d.digits
    rw [hd, List.forall_mem_cons] at hdigits
    exact {
      whole_ne := List.cons_ne_nil _ _
      whole_digits := List.forall_mem_singleton.mpr hdigits.1
      lead := nofun
      fraction_digits := hdigits.2
      parted := .inr nofun }
  value := by
    have hexponent : d.size - 1 - t.length = d.exponent := by
      rw [Decimal.size, hd, List.length_cons]
      omega
    rw [value_decimal, Decimal.value, List.singleton_append, ← hd, Nat.ofDigitChars_ten_toDigits,
      Option.getD_some, hexponent]
  whole_le := le_max_left _ _
  exponent_le := le_max_right _ _

theorem toList_zeros (n : ℕ) : (Layout.zeros n).toList = List.replicate n '0' :=
  String.toList_ofList

theorem exists_spelling_plainText (hl : l.afterWhole = ".0") (hd : d.digits ≠ 0) :
    ∃ s : Spelling, (l.plainText d).toList = s.chars ∧ s.Spells d := by
  unfold Layout.plainText
  dsimp only
  split_ifs with he hsplit
  · refine ⟨_, ?_, spells_whole hd he⟩
    simp [chars, fractionChars, exponentChars, toList_zeros, hl]
  · have hspells := spells_split (d := d) ((Nat.toDigits 10 d.digits).length - (-d.exponent).toNat)
      (-d.exponent).toNat (by omega) (by omega) (by omega) (by omega)
    have hfraction := hspells.regular.parted.resolve_right (not_not.mpr rfl)
    refine ⟨_, ?_, hspells⟩
    rw [chars, fractionChars_of_ne_nil hfraction]
    simp [exponentChars]
  · refine ⟨_, ?_, spells_small ((-d.exponent).toNat - (Nat.toDigits 10 d.digits).length)
      (by omega)⟩
    rw [chars, fractionChars_of_ne_nil (by simp [Nat.toDigits_ne_nil])]
    simp [exponentChars, toList_zeros]

theorem exists_spelling_exponentText (d : Decimal) :
    ∃ s : Spelling, (Layout.exponentText d).toList = s.chars ∧ s.Spells d := by
  obtain ⟨c, t, hct⟩ := List.exists_cons_of_ne_nil (Nat.toDigits_ne_nil (b := 10) (n := d.digits))
  refine ⟨_, ?_, spells_exponent hct⟩
  rw [Layout.exponentText, chars, exponentChars, Decimal.size, hct]
  generalize d.exponent + (c :: t).length - 1 = e
  have hsign : (if e < 0 then "-" else "+" : String).toList = [if e < 0 then '-' else '+'] := by
    split_ifs <;> rfl
  cases t with
  | nil => simp [fractionChars, hsign]
  | cons c' t => simp [fractionChars, hsign]

theorem exists_spelling (hl : l.afterWhole = ".0") (hd : d.digits ≠ 0) :
    ∃ s : Spelling, (l.decimalText d).toList = s.chars ∧ s.Spells d := by
  unfold Layout.decimalText
  dsimp only
  split
  · exact exists_spelling_plainText hl hd
  · split_ifs
    · exact exists_spelling_plainText hl hd
    · exact exists_spelling_exponentText d

def signChars (negative : Bool) : List Char :=
  if negative then ['-'] else []

theorem exists_spelling_write (hl : l.afterWhole = ".0") (hf : f.IsModest) {k : ℤ} (hk : 1 ≤ k)
    (hreach : f.maxExponent + f.precision ≤ 3 * k) (h : f.Holds m e) (negative : Bool) :
    ∃ s : Spelling, (l.write f (.finite negative m e)).toList = signChars negative ++ s.chars ∧
      s.Regular ∧ s.decimal.round f negative = .finite negative m e ∧
      (s.whole.length : ℤ) ≤ k ∧ s.exponent.getD 0 ≤ k := by
  have hsign : (if negative then "-" else "" : String).toList = signChars negative := by
    cases negative <;> rfl
  by_cases hm : m = 0
  · subst hm
    have hleast : e = f.minExponent := by
      refine h.full.resolve_right (not_le.mpr ?_)
      positivity
    refine ⟨⟨['0'], ['0'], none⟩, ?_, ?_, ?_, hk, zero_le_one.trans hk⟩
    · rw [Layout.write]
      simp [hsign, hl, chars, fractionChars, exponentChars]
    · exact {
        whole_ne := List.cons_ne_nil _ _
        whole_digits := isDigit_zeros 1
        lead := nofun
        fraction_digits := isDigit_zeros 1
        parted := .inl (List.cons_ne_nil _ _) }
    · rw [hleast]
      rfl
  · have hcaptures := captures_shortest hf h hm l.tie
    have hsize := size_le hcaptures h hm (by omega) hreach
    obtain ⟨s, htext, hs⟩ := exists_spelling hl (digits_ne_zero hcaptures hm)
    refine ⟨s, ?_, hs.regular, ?_, ?_, ?_⟩
    · rw [Layout.write]
      simp [hm, hsign, htext]
    · exact round_of_captures negative hf h hm (hs.value ▸ hcaptures)
    · have := hs.whole_le
      omega
    · have := hs.exponent_le
      omega

theorem exists_chars_eq {s : Spelling} (h : s.Regular) :
    ∃ c t, s.chars = c :: t ∧ c.isDigit = true := by
  obtain ⟨c, t, hct⟩ := List.exists_cons_of_ne_nil h.whole_ne
  refine ⟨c, _, by rw [chars, hct, List.cons_append], h.whole_digits c ?_⟩
  rw [hct]
  exact List.mem_cons_self

theorem readSign_signChars (negative : Bool) {c : Char} (hc : c.isDigit = true) (s : List Char) :
    readSign (signChars negative ++ c :: s) = (negative, c :: s) := by
  cases negative with
  | true => rfl
  | false =>
    rw [signChars, if_neg Bool.false_ne_true, List.nil_append, readSign]
    · rintro t ⟨⟩
      cases hc
    · rintro t ⟨⟩
      cases hc

theorem toLower_of_isDigit {c : Char} (h : c.isDigit = true) : c.toLower = c := by
  unfold Char.toLower
  rw [dif_neg]
  rintro ⟨hlow, -⟩
  simp only [Char.isDigit, Bool.and_eq_true, decide_eq_true_eq] at h
  have hle : 'A'.val ≤ '9'.val := UInt32.le_trans hlow h.2
  exact absurd hle (by decide)

theorem lowered_ne {s : Spelling} (h : s.Regular) {word : String}
    (hword : word.toList.head?.any Char.isDigit = false) :
    String.ofList (s.chars.map Char.toLower) ≠ word := by
  rintro rfl
  obtain ⟨c, t, hct, hc⟩ := exists_chars_eq h
  rw [String.toList_ofList, hct, List.map_cons, List.head?_cons, Option.any_some,
    toLower_of_isDigit hc, hc] at hword
  cases hword

theorem read?_write (hl : l.afterWhole = ".0") (hf : f.IsModest) (h : f.Holds m e)
    (negative : Bool) :
    read? f (l.write f (.finite negative m e)) = some (.finite negative m e) := by
  obtain ⟨s, htext, hs, hround, -⟩ :=
    exists_spelling_write hl hf (k := 400) (by decide) hf.greatest h negative
  have hsign : readSign (signChars negative ++ s.chars) = (negative, s.chars) := by
    obtain ⟨c, t, hct, hc⟩ := exists_chars_eq hs
    rw [hct, readSign_signChars negative hc]
  have hinfinity : ¬(String.ofList (s.chars.map Char.toLower) = "inf" ∨
      String.ofList (s.chars.map Char.toLower) = "infinity") :=
    not_or.mpr ⟨lowered_ne hs (by decide), lowered_ne hs (by decide)⟩
  rw [read?, htext, hsign]
  dsimp only
  rw [if_neg hinfinity, if_neg (lowered_ne hs (by decide)), readDecimal?_chars hs, Option.map_some,
    hround]

end PromptRelay.Binary
