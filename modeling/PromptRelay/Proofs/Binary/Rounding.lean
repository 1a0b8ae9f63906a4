import Mathlib.Algebra.Order.Field.Power
import Mathlib.Data.Nat.Log
import Mathlib.Tactic.FieldSimp
import Mathlib.Tactic.Linarith
import Mathlib.Tactic.Positivity
import Mathlib.Tactic.Ring
import PromptRelay.Binary.Format

/-!
Rounding fractions to the numbers of a binary format: which exponent is taken, and which fractions
become a given number.
-/

namespace PromptRelay.Binary

variable {base num den n d m : ℕ} {e : ℤ} {f : Format}

theorem scale_den_pos (hbase : 0 < base) (hden : 0 < den) (num : ℕ) (e : ℤ) :
    0 < (scale base num den e).2 := by
  unfold scale
  split_ifs
  · exact Nat.mul_pos hden (Nat.pow_pos hbase)
  · exact hden

theorem scale_value (hbase : 0 < base) (num den : ℕ) (e : ℤ) :
    ((scale base num den e).1 : ℚ) / (scale base num den e).2 = num / den / (base : ℚ) ^ e := by
  have hne : (base : ℚ) ≠ 0 := by positivity
  unfold scale
  split_ifs with he
  · obtain ⟨k, rfl⟩ := Int.eq_ofNat_of_zero_le he
    simp [div_div]
  · obtain ⟨k, rfl⟩ : ∃ k : ℕ, e = -k := ⟨(-e).toNat, by omega⟩
    simp [mul_div_right_comm]

theorem nearest_eq (hd : 0 < d) (hlow : (m : ℚ) - 1 / 2 ≤ n / d) (hhigh : (n : ℚ) / d ≤ m + 1 / 2)
    (htie : m % 2 = 0 ∨ (m : ℚ) - 1 / 2 < n / d ∧ (n : ℚ) / d < m + 1 / 2) : nearest n d = m := by
  have hd' : (0 : ℚ) < d := by exact_mod_cast hd
  have hlow' : 2 * (m * d) ≤ 2 * n + d := by
    rw [le_div_iff₀ hd'] at hlow
    have hcast : (2 : ℚ) * (m * d) ≤ 2 * n + d := by linarith
    exact_mod_cast hcast
  have hhigh' : 2 * n ≤ 2 * (m * d) + d := by
    rw [div_le_iff₀ hd'] at hhigh
    have hcast : (2 : ℚ) * n ≤ 2 * (m * d) + d := by linarith
    exact_mod_cast hcast
  have htie' : m % 2 = 0 ∨ 2 * (m * d) < 2 * n + d ∧ 2 * n < 2 * (m * d) + d := by
    refine htie.imp_right fun ⟨hlow, hhigh⟩ => ?_
    rw [lt_div_iff₀ hd'] at hlow
    rw [div_lt_iff₀ hd'] at hhigh
    have hlow' : (2 : ℚ) * (m * d) < 2 * n + d := by linarith
    have hhigh' : (2 : ℚ) * n < 2 * (m * d) + d := by linarith
    exact ⟨by exact_mod_cast hlow', by exact_mod_cast hhigh'⟩
  have hn := Nat.div_add_mod' n d
  have hr := Nat.mod_lt n hd
  unfold nearest
  generalize n / d = q at hn ⊢
  generalize n % d = r at hn hr ⊢
  have hle : q ≤ m := by
    by_contra hlt
    have hmul : (m + 1) * d ≤ q * d := Nat.mul_le_mul_right d (not_le.mp hlt)
    rw [Nat.add_one_mul] at hmul
    omega
  have hge : m ≤ q + 1 := by
    by_contra hlt
    have hmul : (q + 2) * d ≤ m * d := Nat.mul_le_mul_right d (not_le.mp hlt)
    rw [Nat.add_mul] at hmul
    omega
  dsimp only
  obtain rfl | rfl : m = q ∨ m = q + 1 := by omega
  · split_ifs <;> omega
  · rw [Nat.add_one_mul q d] at hlow' hhigh' htie'
    split_ifs <;> omega

theorem nearest_le (hd : 0 < d) (h : n ≤ m * d) : nearest n d ≤ m := by
  have hn := Nat.div_add_mod' n d
  have hr := Nat.mod_lt n hd
  unfold nearest
  generalize n / d = q at hn ⊢
  generalize n % d = r at hn hr ⊢
  have hle : q ≤ m := by
    by_contra hlt
    have hmul : (m + 1) * d ≤ q * d := Nat.mul_le_mul_right d (not_le.mp hlt)
    rw [Nat.add_one_mul] at hmul
    omega
  rcases hle.eq_or_lt with rfl | hlt
  · obtain rfl : r = 0 := by omega
    simp [hd]
  · dsimp only
    split_ifs <;> omega

/-- The exponents that give a fraction no more bits than the format has, and all of them unless the
exponent is the least. -/
structure Format.Suits (f : Format) (v : ℚ) (e : ℤ) : Prop where
  least : f.minExponent ≤ e
  lt : v < 2 ^ (e + f.precision)
  full : e = f.minExponent ∨ 2 ^ (e + f.precision - 1) ≤ v

theorem Format.Suits.unique {v : ℚ} {e₁ e₂ : ℤ} (h₁ : f.Suits v e₁) (h₂ : f.Suits v e₂) :
    e₁ = e₂ := by
  have hle {a b : ℤ} (ha : f.Suits v a) (hb : f.Suits v b) : a ≤ b := by
    rcases ha.full with hleast | hfull
    · exact hleast ▸ hb.least
    · have hlt := hfull.trans_lt hb.lt
      have hexponents := (zpow_lt_zpow_iff_right₀ one_lt_two).mp hlt
      omega
  exact le_antisymm (hle h₁ h₂) (hle h₂ h₁)

theorem two_zpow_log2_le (h : n ≠ 0) : (2 : ℚ) ^ (n.log2 : ℤ) ≤ n := by
  rw [zpow_natCast]
  exact_mod_cast Nat.log2_self_le h

theorem lt_two_zpow_log2 (n : ℕ) : (n : ℚ) < 2 ^ ((n.log2 : ℤ) + 1) := by
  have hlt : n < 2 ^ (n.log2 + 1) := Nat.lt_log2_self
  have hcast : (n : ℚ) < 2 ^ (n.log2 + 1) := by exact_mod_cast hlt
  rwa [← zpow_natCast, Nat.cast_add, Nat.cast_one] at hcast

theorem scale_lt_iff (hden : den ≠ 0) (num k : ℕ) (e : ℤ) :
    (scale 2 num den e).1 < Nat.pow 2 k * (scale 2 num den e).2 ↔
      (num : ℚ) / den < 2 ^ (e + k) := by
  have hd : (0 : ℚ) < (scale 2 num den e).2 := by
    exact_mod_cast scale_den_pos two_pos (Nat.pos_of_ne_zero hden) num e
  have hvalue := scale_value two_pos num den e
  rw [Nat.cast_two, eq_div_iff (by positivity)] at hvalue
  rw [← hvalue, add_comm, zpow_add₀ two_ne_zero, zpow_natCast, mul_lt_mul_iff_left₀ (by positivity),
    div_lt_iff₀ hd]
  exact_mod_cast Iff.rfl

theorem suits_exponentFor (hp : 1 ≤ f.precision) (hnum : num ≠ 0) (hden : den ≠ 0) :
    f.Suits (num / den) (exponentFor f num den) := by
  have hden' : (0 : ℚ) < den := by positivity
  generalize hv : (num : ℚ) / den = v
  -- The first guess is right or one too high.
  have hguess (e : ℤ) (he : (num.log2 : ℤ) - den.log2 - (f.precision - 1) = e) :
      (2 : ℚ) ^ (e + f.precision - 2) ≤ v ∧ v < 2 ^ (e + f.precision) := by
    have hlow : e + f.precision - 2 + (den.log2 + 1) = num.log2 := by omega
    have hhigh : e + f.precision + den.log2 = num.log2 + 1 := by omega
    rw [← hv, le_div_iff₀ hden', div_lt_iff₀ hden']
    constructor
    · calc (2 : ℚ) ^ (e + f.precision - 2) * den
          ≤ 2 ^ (e + f.precision - 2) * 2 ^ ((den.log2 : ℤ) + 1) := by
            gcongr
            exact (lt_two_zpow_log2 den).le
        _ = 2 ^ (num.log2 : ℤ) := by rw [← zpow_add₀ two_ne_zero, hlow]
        _ ≤ num := two_zpow_log2_le hnum
    · calc (num : ℚ) < 2 ^ ((num.log2 : ℤ) + 1) := lt_two_zpow_log2 num
        _ = 2 ^ (e + f.precision) * 2 ^ (den.log2 : ℤ) := by rw [← zpow_add₀ two_ne_zero, hhigh]
        _ ≤ 2 ^ (e + f.precision) * den := by
            gcongr
            exact two_zpow_log2_le hden
  have hsuits {e : ℤ} (hlow : (2 : ℚ) ^ (e + f.precision - 1) ≤ v)
      (hhigh : v < 2 ^ (e + f.precision)) : f.Suits v (max f.minExponent e) := by
    refine ⟨le_max_left _ _, hhigh.trans_le ?_, ?_⟩
    · gcongr
      · exact one_le_two
      · exact le_max_right _ _
    · rcases le_total e f.minExponent with hle | hle
      · exact .inl (max_eq_left hle)
      · rw [max_eq_right hle]
        exact .inr hlow
  have hfew (e : ℤ) : (scale 2 num den e).1 < Nat.pow 2 (f.precision - 1) * (scale 2 num den e).2 ↔
      v < 2 ^ (e + f.precision - 1) := by
    have hbits : e + ((f.precision - 1 : ℕ) : ℤ) = e + f.precision - 1 := by omega
    rw [scale_lt_iff hden, hv, hbits]
  unfold exponentFor
  generalize he : (num.log2 : ℤ) - den.log2 - (f.precision - 1) = e
  obtain ⟨hlow, hhigh⟩ := hguess e he
  dsimp only
  split_ifs with hlt
  · have hless : e - 1 + f.precision - 1 = e + f.precision - 2 := by omega
    have hless' : e - 1 + f.precision = e + f.precision - 1 := by omega
    apply hsuits
    · rwa [hless]
    · rw [hless']
      exact (hfew e).mp hlt
  · exact hsuits (not_lt.mp fun h => hlt ((hfew e).mpr h)) hhigh

theorem round_of_suits {v : ℚ} (negative : Bool) (hp : 1 ≤ f.precision) (hnum : num ≠ 0)
    (hden : den ≠ 0) (hv : (num : ℚ) / den = v) (h : f.Suits v e)
    (hm : nearest (scale 2 num den e).1 (scale 2 num den e).2 = m) :
    round f negative num den =
      if m = 2 ^ f.precision then
        if f.maxExponent < e + 1 then .infinite negative
        else .finite negative (2 ^ (f.precision - 1)) (e + 1)
      else if f.maxExponent < e then .infinite negative else .finite negative m e := by
  have hexponent : exponentFor f num den = e :=
    (suits_exponentFor hp hnum hden).unique (hv ▸ h)
  rw [round, if_neg hnum, hexponent]
  simp only [hm, Nat.pow_eq]
  by_cases hcarry : m = 2 ^ f.precision
  · simp only [if_pos hcarry]
  · simp only [if_neg hcarry]

/-- The mantissas and exponents of a format: the mantissa has all the bits of the format unless the
exponent is the least. -/
structure Format.Holds (f : Format) (m : ℕ) (e : ℤ) : Prop where
  fits : m < 2 ^ f.precision
  full : e = f.minExponent ∨ 2 ^ (f.precision - 1) ≤ m
  least : f.minExponent ≤ e
  greatest : e ≤ f.maxExponent

def Format.Has (f : Format) : Binary → Prop
  | .finite _ m e => f.Holds m e
  | _ => True

/-- How far below a number, in quarters of its unit, the fractions begin that round to it. Where the
unit changes, the half of the unit below counts. -/
def margin (f : Format) (m : ℕ) (e : ℤ) : ℕ :=
  if m = 2 ^ (f.precision - 1) ∧ f.minExponent < e then 1 else 2

/-- A fraction between the middles of the gaps around a positive number, measured in quarters of its
unit; at a middle the mantissa must be even. -/
structure Format.Captures (f : Format) (m : ℕ) (e : ℤ) (v : ℚ) : Prop where
  low : (4 * m - margin f m e : ℚ) ≤ v / 2 ^ (e - 2)
  high : v / 2 ^ (e - 2) ≤ 4 * m + 2
  tie : m % 2 = 0 ∨ (4 * m - margin f m e : ℚ) < v / 2 ^ (e - 2) ∧ v / 2 ^ (e - 2) < 4 * m + 2

theorem margin_le (f : Format) (m : ℕ) (e : ℤ) : margin f m e ≤ 2 := by
  unfold margin
  split_ifs <;> decide

theorem cast_margin_le (f : Format) (m : ℕ) (e : ℤ) : (margin f m e : ℚ) ≤ 2 := by
  exact_mod_cast margin_le f m e

theorem Format.Captures.pos {v : ℚ} (h : f.Captures m e v) (hm : m ≠ 0) : 0 < v := by
  have hmargin := cast_margin_le f m e
  have hone : (1 : ℚ) ≤ m := by exact_mod_cast Nat.one_le_iff_ne_zero.mpr hm
  have hquarters : 0 < v / 2 ^ (e - 2) := lt_of_lt_of_le (by linarith) h.low
  exact (div_pos_iff_of_pos_right (by positivity)).mp hquarters

theorem two_zpow_sub_two (e k : ℤ) : (2 : ℚ) ^ (e + k) = 4 * 2 ^ k * 2 ^ (e - 2) := by
  rw [show e + k = 2 + k + (e - 2) by omega, zpow_add₀ two_ne_zero, zpow_add₀ two_ne_zero]
  norm_num

theorem two_zpow_sub_one (e : ℤ) : (2 : ℚ) ^ (e - 1) = 2 * 2 ^ (e - 2) := by
  rw [← zpow_one_add₀ two_ne_zero]
  congr 1
  omega

theorem margin_eq_one_iff : margin f m e = 1 ↔ m = 2 ^ (f.precision - 1) ∧ f.minExponent < e := by
  unfold margin
  split_ifs with h <;> simp [h]

theorem Format.Captures.suits {v : ℚ} (h : f.Captures m e v) (hp : 1 ≤ f.precision)
    (hholds : f.Holds m e) (hnarrow : margin f m e = 1 → (4 * m : ℚ) ≤ v / 2 ^ (e - 2)) :
    f.Suits v e := by
  have hunit : (0 : ℚ) < 2 ^ (e - 2) := by positivity
  have hmargin := cast_margin_le f m e
  refine ⟨hholds.least, ?_, ?_⟩
  · have hfits : (m : ℚ) + 1 ≤ 2 ^ f.precision := by exact_mod_cast hholds.fits
    rw [two_zpow_sub_two, zpow_natCast, ← div_lt_iff₀ hunit]
    linarith [h.high]
  · by_cases hleast : e = f.minExponent
    · exact .inl hleast
    · have hbits : e + f.precision - 1 = e + ((f.precision - 1 : ℕ) : ℤ) := by omega
      rw [hbits, two_zpow_sub_two, zpow_natCast, ← le_div_iff₀ hunit]
      right
      rcases (hholds.full.resolve_left hleast).eq_or_lt with heq | hlt
      · have hone := margin_eq_one_iff.mpr ⟨heq.symm, lt_of_le_of_ne hholds.least (Ne.symm hleast)⟩
        have hcast : (m : ℚ) = 2 ^ (f.precision - 1) := by exact_mod_cast heq.symm
        rw [← hcast]
        exact hnarrow hone
      · have hcast : (2 : ℚ) ^ (f.precision - 1) + 1 ≤ m := by exact_mod_cast hlt
        linarith [h.low]

theorem Format.Captures.suits_below {v : ℚ} (h : f.Captures m e v) (hp : 1 ≤ f.precision)
    (hone : margin f m e = 1) (hbelow : v / 2 ^ (e - 2) < 4 * m) : f.Suits v (e - 1) := by
  obtain ⟨hm, hleast⟩ := margin_eq_one_iff.mp hone
  have hcast : (m : ℚ) = 2 ^ (f.precision - 1) := by exact_mod_cast hm
  have hunit : (0 : ℚ) < 2 ^ (e - 2) := by positivity
  have hlow := h.low
  have hm' : (1 : ℚ) ≤ m := hcast ▸ one_le_pow₀ one_le_two
  rw [hone, Nat.cast_one] at hlow
  refine ⟨by omega, ?_, .inr ?_⟩
  · have hbits : e - 1 + f.precision = e + ((f.precision - 1 : ℕ) : ℤ) := by omega
    rw [hbits, two_zpow_sub_two, zpow_natCast, ← div_lt_iff₀ hunit, ← hcast]
    exact hbelow
  · have hbits : e - 1 + f.precision - 1 = ((f.precision - 1 : ℕ) : ℤ) + 1 + (e - 2) := by omega
    rw [hbits, zpow_add₀ two_ne_zero, ← le_div_iff₀ hunit, zpow_add₀ two_ne_zero, zpow_natCast,
      ← hcast, zpow_one]
    linarith

theorem round_eq {v : ℚ} (negative : Bool) (hp : 1 ≤ f.precision) (hden : den ≠ 0)
    (hm : m ≠ 0) (hholds : f.Holds m e) (hv : (num : ℚ) / den = v) (h : f.Captures m e v) :
    round f negative num den = .finite negative m e := by
  have hnum : num ≠ 0 := by
    rintro rfl
    have hpos := h.pos hm
    simp [← hv] at hpos
  have hd (e : ℤ) := scale_den_pos two_pos (Nat.pos_of_ne_zero hden) num e
  have hvalue (k : ℤ) : ((scale 2 num den (e + k)).1 : ℚ) / (scale 2 num den (e + k)).2 =
      v / 2 ^ (e - 2) / (4 * 2 ^ k) := by
    rw [scale_value two_pos, hv, Nat.cast_two, two_zpow_sub_two, div_div,
      mul_comm (4 * (2 : ℚ) ^ k)]
  have hmargin := cast_margin_le f m e
  obtain ⟨hlow, hhigh, htie⟩ := id h
  -- Just below the number where the unit changes, it is the mantissa of the smaller unit that is
  -- rounded, and it comes out as twice the mantissa of the number.
  by_cases hnarrow : margin f m e = 1 ∧ v / 2 ^ (e - 2) < 4 * m
  · obtain ⟨hone, hbelow⟩ := hnarrow
    rw [hone, Nat.cast_one] at hlow
    have hcarry : 2 * m = 2 ^ f.precision := by
      rw [(margin_eq_one_iff.mp hone).1, ← pow_succ', Nat.sub_add_cancel hp]
    have hnearest : nearest (scale 2 num den (e + -1)).1 (scale 2 num den (e + -1)).2 = 2 * m := by
      apply nearest_eq (hd _)
      · rw [hvalue]
        norm_num
        linarith
      · rw [hvalue]
        norm_num
        linarith
      · exact .inl (Nat.mul_mod_right 2 m)
    rw [round_of_suits negative hp hnum hden hv (h.suits_below hp hone hbelow) hnearest,
      if_pos hcarry, Int.sub_add_cancel, if_neg (not_lt.mpr hholds.greatest),
      (margin_eq_one_iff.mp hone).1]
  · have hsuits := h.suits hp hholds (by simpa using hnarrow)
    have hvalue := hvalue 0
    rw [add_zero, zpow_zero] at hvalue
    have hnearest : nearest (scale 2 num den e).1 (scale 2 num den e).2 = m := by
      apply nearest_eq (hd e)
      · rw [hvalue]
        linarith
      · rw [hvalue]
        linarith
      · refine htie.imp_right fun ⟨hlow, hhigh⟩ => ?_
        rw [hvalue]
        exact ⟨by linarith, by linarith⟩
    rw [round_of_suits negative hp hnum hden hv hsuits hnearest, if_neg hholds.fits.ne,
      if_neg (not_lt.mpr hholds.greatest)]

theorem round_le {k : ℤ} (negative : Bool) (hp : 1 ≤ f.precision) (hden : den ≠ 0)
    (hmin : f.minExponent ≤ k) (hrange : f.minExponent ≤ f.maxExponent)
    (hmax : k - f.precision + 1 ≤ f.maxExponent) (h : (num : ℚ) / den ≤ 2 ^ k) :
    ∃ m e, round f negative num den = .finite negative m e ∧ (m : ℚ) * 2 ^ e ≤ 2 ^ k := by
  by_cases hnum : num = 0
  · refine ⟨0, f.minExponent, ?_, ?_⟩
    · rw [round, if_pos hnum]
    · rw [Nat.cast_zero, zero_mul]
      positivity
  · have hsuits := suits_exponentFor hp hnum hden
    generalize exponentFor f num den = e at hsuits
    have hek : e ≤ k ∧ e - 1 + f.precision ≤ k ∨ e = f.minExponent := by
      refine hsuits.full.symm.imp_left fun hfull => ?_
      have hpowers := (zpow_le_zpow_iff_right₀ one_lt_two).mp (hfull.trans h)
      omega
    obtain ⟨j, rfl⟩ : ∃ j : ℕ, k = e + j := ⟨(k - e).toNat, by omega⟩
    have hm : nearest (scale 2 num den e).1 (scale 2 num den e).2 ≤ 2 ^ j := by
      have hd := scale_den_pos two_pos (Nat.pos_of_ne_zero hden) num e
      have hd' : (0 : ℚ) < (scale 2 num den e).2 := by exact_mod_cast hd
      have hquotient : ((scale 2 num den e).1 : ℚ) / (scale 2 num den e).2 ≤ 2 ^ j := by
        rw [scale_value two_pos, Nat.cast_two, div_le_iff₀ (by positivity), ← zpow_natCast,
          ← zpow_add₀ two_ne_zero, add_comm]
        exact h
      apply nearest_le hd
      rw [div_le_iff₀ hd'] at hquotient
      exact_mod_cast hquotient
    rw [round_of_suits negative hp hnum hden rfl hsuits rfl]
    generalize nearest (scale 2 num den e).1 (scale 2 num den e).2 = m at hm
    have hvalue : (m : ℚ) * 2 ^ e ≤ 2 ^ (e + (j : ℤ)) := by
      rw [add_comm, zpow_add₀ two_ne_zero, zpow_natCast]
      gcongr
      exact_mod_cast hm
    split_ifs with hcarry hover hover
    · rw [hcarry] at hm
      have hpj := (Nat.pow_le_pow_iff_right one_lt_two).mp hm
      omega
    · refine ⟨_, _, rfl, ?_⟩
      rw [hcarry, ← Nat.sub_add_cancel hp, pow_succ, Nat.cast_mul, mul_assoc, Nat.cast_two,
        mul_comm 2, ← zpow_add_one₀ two_ne_zero] at hvalue
      exact hvalue
    · omega
    · exact ⟨m, e, rfl, hvalue⟩

theorem toRat?_finite (negative : Bool) (m : ℕ) (e : ℤ) :
    (Binary.finite negative m e).toRat? =
      some ((if negative then -1 else 1 : ℚ) * (m * 2 ^ e)) := by
  have hvalue := scale_value two_pos m 1 (-e)
  rw [Nat.cast_two, Nat.cast_one, div_one, zpow_neg, div_inv_eq_mul] at hvalue
  rw [toRat?, ← hvalue]
  dsimp only
  rw [Rat.mkRat_eq_div]
  cases negative <;> simp [neg_div]

end PromptRelay.Binary
