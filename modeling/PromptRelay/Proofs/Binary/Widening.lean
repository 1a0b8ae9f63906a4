import PromptRelay.Proofs.Binary.Shortest

namespace PromptRelay.Binary

variable {f : Format} {num den n d m : ℕ} {e : ℤ} {x : Binary}

theorem le_nearest (hd : 0 < d) (h : m * d ≤ n) : m ≤ nearest n d := by
  have hle : m ≤ n / d := (Nat.le_div_iff_mul_le hd).mpr h
  unfold nearest
  dsimp only
  split_ifs <;> omega

theorem Format.Suits.nearest_le (h : f.Suits (num / den) e) (hden : den ≠ 0) :
    nearest (scale 2 num den e).1 (scale 2 num den e).2 ≤ 2 ^ f.precision := by
  have hd := scale_den_pos two_pos (Nat.pos_of_ne_zero hden) num e
  exact Binary.nearest_le hd ((scale_lt_iff hden num f.precision e).mpr h.lt).le

theorem Format.Suits.le_nearest (h : f.Suits (num / den) e) (hden : den ≠ 0)
    (hp : 1 ≤ f.precision) : e = f.minExponent ∨
      2 ^ (f.precision - 1) ≤ nearest (scale 2 num den e).1 (scale 2 num den e).2 := by
  have hd := scale_den_pos two_pos (Nat.pos_of_ne_zero hden) num e
  refine h.full.imp_right fun hfull => Binary.le_nearest hd ?_
  have hbits : e + ((f.precision - 1 : ℕ) : ℤ) = e + f.precision - 1 := by omega
  rw [← hbits] at hfull
  have hnot := (scale_lt_iff hden num (f.precision - 1) e).not.mpr (not_lt.mpr hfull)
  exact Nat.not_lt.mp hnot

theorem has_round (negative : Bool) (hp : 1 ≤ f.precision) (hrange : f.minExponent ≤ f.maxExponent)
    (hden : den ≠ 0) (num : ℕ) : f.Has (round f negative num den) := by
  by_cases hnum : num = 0
  · rw [round, if_pos hnum]
    exact ⟨Nat.pow_pos two_pos, .inl rfl, le_rfl, hrange⟩
  · have hsuits := suits_exponentFor hp hnum hden
    generalize exponentFor f num den = e at hsuits
    have hle := hsuits.nearest_le hden
    have hge := hsuits.le_nearest hden hp
    have hleast := hsuits.least
    rw [round_of_suits negative hp hnum hden rfl hsuits rfl]
    generalize nearest (scale 2 num den e).1 (scale 2 num den e).2 = m at hle hge
    split_ifs with hcarry hover hover
    · trivial
    · have hhalf : 2 ^ (f.precision - 1) < 2 ^ f.precision :=
        Nat.pow_lt_pow_right one_lt_two (by omega)
      exact ⟨hhalf, .inr le_rfl, by omega, not_lt.mp hover⟩
    · trivial
    · exact ⟨lt_of_le_of_ne hle hcarry, hge, hleast, not_lt.mp hover⟩

theorem has_convert (hp : 1 ≤ f.precision) (hrange : f.minExponent ≤ f.maxExponent) (x : Binary) :
    f.Has (x.convert f) := by
  cases x with
  | nan => trivial
  | infinite negative => trivial
  | finite negative m e =>
    exact has_round negative hp hrange (scale_den_pos two_pos one_pos m (-e)).ne' _

theorem one_le_margin (f : Format) (m : ℕ) (e : ℤ) : 1 ≤ margin f m e := by
  unfold margin
  split_ifs <;> decide

theorem captures_self (f : Format) (m : ℕ) (e : ℤ) : f.Captures m e (m * 2 ^ e) := by
  have hquarters : (m : ℚ) * 2 ^ e / 2 ^ (e - 2) = 4 * m := by
    have hsplit := two_zpow_sub_two e 0
    rw [add_zero, zpow_zero, mul_one] at hsplit
    rw [hsplit, ← mul_assoc, mul_div_assoc, div_self (by positivity), mul_one, mul_comm]
  have hmargin : (1 : ℚ) ≤ margin f m e := by exact_mod_cast one_le_margin f m e
  exact ⟨by linarith, by linarith, .inr ⟨by linarith, by linarith⟩⟩

theorem convert_eq (negative : Bool) (hp : 1 ≤ f.precision) (hm : m ≠ 0) (h : f.Holds m e)
    {k : ℤ} (hvalue : (n : ℚ) * 2 ^ k = m * 2 ^ e) :
    (Binary.finite negative n k).convert f = .finite negative m e := by
  have hscale := scale_value two_pos n 1 (-k)
  rw [Nat.cast_two, Nat.cast_one, div_one, zpow_neg, div_inv_eq_mul, hvalue] at hscale
  have hden := scale_den_pos two_pos one_pos n (-k)
  exact round_eq negative hp hden.ne' hm h hscale (captures_self f m e)

theorem convert_zero (negative : Bool) (e : ℤ) :
    (Binary.finite negative 0 e).convert f = .finite negative 0 f.minExponent := by
  have hscale : (scale 2 0 1 (-e)).1 = 0 := by
    unfold scale
    split_ifs
    · rfl
    · exact Nat.zero_mul _
  exact if_pos hscale

theorem exists_double (h : Format.single.Holds m e) (hm : m ≠ 0) :
    ∃ m' e', Format.double.Holds m' e' ∧ m' ≠ 0 ∧ (m' : ℚ) * 2 ^ e' = m * 2 ^ e := by
  have hfits : m < 2 ^ 24 := h.fits
  have hleast : -149 ≤ e := h.least
  have hgreatest : e ≤ 104 := h.greatest
  have hlog : m.log2 < 24 := (Nat.log2_lt hm).mpr hfits
  have hlow : 2 ^ m.log2 ≤ m := Nat.log2_self_le hm
  have hhigh : m < 2 ^ (m.log2 + 1) := Nat.lt_log2_self
  obtain ⟨k, hk⟩ : ∃ k, m.log2 + k = 52 := ⟨52 - m.log2, by omega⟩
  have hpow : 0 < 2 ^ k := Nat.two_pow_pos k
  refine ⟨m * 2 ^ k, e - k, ⟨?fits, .inr ?full, ?least, ?greatest⟩, by positivity, ?value⟩
  case fits =>
    calc m * 2 ^ k < 2 ^ (m.log2 + 1) * 2 ^ k := Nat.mul_lt_mul_of_pos_right hhigh hpow
      _ = 2 ^ 53 := by rw [← pow_add, Nat.add_right_comm, hk]
  case full =>
    calc 2 ^ 52 = 2 ^ m.log2 * 2 ^ k := by rw [← pow_add, hk]
      _ ≤ m * 2 ^ k := Nat.mul_le_mul_right _ hlow
  case least =>
    have hmin : Format.double.minExponent = -1074 := rfl
    omega
  case greatest =>
    have hmax : Format.double.maxExponent = 971 := rfl
    omega
  case value =>
    rw [Nat.cast_mul, Nat.cast_pow, Nat.cast_two, mul_assoc, ← zpow_natCast,
      ← zpow_add₀ two_ne_zero, add_sub_cancel]

theorem convert_double_single (h : Format.single.Has x) :
    (x.convert .double).convert .single = x := by
  cases x with
  | nan => rfl
  | infinite negative => rfl
  | finite negative m e =>
    have hholds : Format.single.Holds m e := h
    by_cases hm : m = 0
    · subst hm
      have hleast : e = Format.single.minExponent :=
        hholds.full.resolve_right (Nat.not_le.mpr (Nat.two_pow_pos _))
      rw [convert_zero, convert_zero, hleast]
    · obtain ⟨m', e', hdouble, hm', hvalue⟩ := exists_double hholds hm
      rw [convert_eq negative (by decide) hm' hdouble hvalue.symm,
        convert_eq negative (by decide) hm hholds hvalue]

end PromptRelay.Binary
