import Mathlib.Algebra.Order.Floor.Semifield
import Mathlib.Data.Rat.Floor
import PromptRelay.Binary.Decimal
import PromptRelay.Proofs.Binary.Rounding

namespace PromptRelay

namespace Decimal

def value (d : Decimal) : ℚ :=
  d.digits * 10 ^ d.exponent

def size (d : Decimal) : ℤ :=
  d.exponent + (Nat.toDigits 10 d.digits).length

theorem ten_pow_length_le {n : ℕ} (h : n ≠ 0) :
    10 ^ ((Nat.toDigits 10 n).length - 1) ≤ n ∧ n < 10 ^ (Nat.toDigits 10 n).length := by
  have hlength : 0 < (Nat.toDigits 10 n).length :=
    List.length_pos_iff.mpr Nat.toDigits_ne_nil
  have hle (k : ℕ) (hk : 0 < k) : (Nat.toDigits 10 n).length ≤ k ↔ n < 10 ^ k :=
    Nat.length_toDigits_le_iff (by decide) hk
  refine ⟨?_, (hle _ hlength).mp le_rfl⟩
  by_contra hlt
  rcases Nat.eq_zero_or_pos ((Nat.toDigits 10 n).length - 1) with hzero | hpos
  · rw [hzero, pow_zero] at hlt
    omega
  · have hshort := (hle _ hpos).mpr (not_le.mp hlt)
    omega

theorem value_bounds {d : Decimal} (h : d.digits ≠ 0) :
    (10 : ℚ) ^ (d.size - 1) ≤ d.value ∧ d.value < 10 ^ d.size := by
  have hlength : 0 < (Nat.toDigits 10 d.digits).length :=
    List.length_pos_iff.mpr Nat.toDigits_ne_nil
  obtain ⟨hlow, hhigh⟩ := ten_pow_length_le h
  have hlow' : (10 : ℚ) ^ ((Nat.toDigits 10 d.digits).length - 1) ≤ d.digits := by
    exact_mod_cast hlow
  have hhigh' : (d.digits : ℚ) < 10 ^ (Nat.toDigits 10 d.digits).length := by
    exact_mod_cast hhigh
  have hsize : d.size - 1 = (((Nat.toDigits 10 d.digits).length - 1 : ℕ) : ℤ) + d.exponent := by
    unfold size
    omega
  rw [hsize, size, add_comm d.exponent, zpow_add₀ (by norm_num), zpow_add₀ (by norm_num), value,
    zpow_natCast, zpow_natCast]
  constructor <;> gcongr

end Decimal

namespace Binary

variable {f : Format} {m n d : ℕ} {e q : ℤ} {tie : Tie} {x : Decimal}

theorem span_den_pos (f : Format) (m : ℕ) (e : ℤ) : 0 < (span f m e).den :=
  scale_den_pos two_pos one_pos 1 (2 - e)

theorem scale_unit (e : ℤ) :
    ((scale 2 1 1 (2 - e)).1 : ℚ) / (scale 2 1 1 (2 - e)).2 = 2 ^ (e - 2) := by
  have hvalue := scale_value two_pos 1 1 (2 - e)
  rw [Nat.cast_one, Nat.cast_two, div_one, one_div, ← zpow_neg, neg_sub] at hvalue
  exact hvalue

theorem span_contains (m n d : ℕ) (e : ℤ) : (span f m e).contains n d =
    if m % 2 = 0 then
      decide ((4 * m - margin f m e) * (scale 2 1 1 (2 - e)).1 * d ≤ n) &&
        decide (n ≤ (4 * m + 2) * (scale 2 1 1 (2 - e)).1 * d)
    else
      decide ((4 * m - margin f m e) * (scale 2 1 1 (2 - e)).1 * d < n) &&
        decide (n < (4 * m + 2) * (scale 2 1 1 (2 - e)).1 * d) := by
  unfold Span.contains span margin
  simp only [Nat.pow_eq, decide_eq_true_eq]

theorem contains_iff (hm : m ≠ 0) (hd : 0 < d) :
    (span f m e).contains (n * (span f m e).den) d = true ↔ f.Captures m e (n / d) := by
  have hden : (0 : ℚ) < (scale 2 1 1 (2 - e)).2 := by exact_mod_cast span_den_pos f m e
  have hunit := scale_unit e
  rw [div_eq_iff hden.ne'] at hunit
  have hspan : (span f m e).den = (scale 2 1 1 (2 - e)).2 := rfl
  rw [span_contains, hspan]
  generalize (scale 2 1 1 (2 - e)).2 = den at hden hunit ⊢
  generalize (scale 2 1 1 (2 - e)).1 = unit at hunit ⊢
  have hd' : (0 : ℚ) < d := by exact_mod_cast hd
  have hpos : (0 : ℚ) < unit * d := by
    rw [hunit]
    positivity
  generalize hw : (n : ℚ) / d / 2 ^ (e - 2) = w
  have hquarters : (n : ℚ) * den = w * (unit * d) := by
    rw [← hw, hunit]
    field_simp
  have hle (a : ℕ) : a * unit * d ≤ n * den ↔ (a : ℚ) ≤ w := by
    rw [← mul_le_mul_iff_left₀ hpos, ← hquarters, ← mul_assoc]
    exact_mod_cast Iff.rfl
  have hge (a : ℕ) : n * den ≤ a * unit * d ↔ w ≤ (a : ℚ) := by
    rw [← mul_le_mul_iff_left₀ hpos, ← hquarters, ← mul_assoc]
    exact_mod_cast Iff.rfl
  have hmargin : margin f m e ≤ 4 * m := (margin_le f m e).trans (by omega)
  have hlow : ((4 * m - margin f m e : ℕ) : ℚ) = 4 * m - margin f m e := by
    rw [Nat.cast_sub hmargin, Nat.cast_mul, Nat.cast_ofNat]
  have hhigh : ((4 * m + 2 : ℕ) : ℚ) = 4 * m + 2 := by
    rw [Nat.cast_add, Nat.cast_mul, Nat.cast_ofNat, Nat.cast_ofNat]
  split_ifs with heven
  · simp only [Bool.and_eq_true, decide_eq_true_eq, hle, hge, hlow, hhigh]
    constructor
    · rintro ⟨h₁, h₂⟩
      exact ⟨hw ▸ h₁, hw ▸ h₂, .inl heven⟩
    · rintro ⟨h₁, h₂, -⟩
      exact ⟨hw ▸ h₁, hw ▸ h₂⟩
  · simp only [Bool.and_eq_true, decide_eq_true_eq, ← not_le, hle, hge, hlow, hhigh]
    simp only [not_le]
    constructor
    · rintro ⟨h₁, h₂⟩
      exact ⟨(hw ▸ h₁).le, (hw ▸ h₂).le, .inr ⟨hw ▸ h₁, hw ▸ h₂⟩⟩
    · rintro ⟨-, -, htie⟩
      exact hw ▸ htie.resolve_left heven

theorem scale_ten_value (k : ℕ) (q : ℤ) :
    ((scale 10 k 1 (-q)).1 : ℚ) / (scale 10 k 1 (-q)).2 = k * 10 ^ q := by
  rw [scale_value (by decide), Nat.cast_one, div_one, zpow_neg, div_inv_eq_mul]
  norm_cast

theorem contains_grid_iff (hm : m ≠ 0) (k : ℕ) (q : ℤ) :
    (span f m e).contains ((scale 10 k 1 (-q)).1 * (span f m e).den) (scale 10 k 1 (-q)).2 = true ↔
      f.Captures m e (k * 10 ^ q) := by
  rw [contains_iff hm (scale_den_pos (by decide) one_pos k (-q)), scale_ten_value]

theorem captures_of_onGrid? (hm : m ≠ 0) (h : (span f m e).onGrid? tie q = some x) :
    f.Captures m e x.value := by
  have hcaptures (k : ℕ) := (contains_grid_iff (f := f) (e := e) hm k q).mp
  unfold Span.onGrid? at h
  dsimp only at h
  generalize (scale 10 (span f m e).value (span f m e).den q).1 = n at h
  generalize (scale 10 (span f m e).value (span f m e).den q).2 = d at h
  generalize n / d = below at h
  split at h
  case h_1 => cases h
  case h_2 hbelow _ =>
    obtain rfl := Option.some.inj h
    exact hcaptures _ hbelow
  case h_3 _ habove =>
    obtain rfl := Option.some.inj h
    exact hcaptures _ habove
  case h_4 hbelow habove =>
    have heven : below + below % 2 = below ∨ below + below % 2 = below + 1 := by omega
    split_ifs at h
    · obtain rfl := Option.some.inj h
      exact hcaptures _ hbelow
    · obtain rfl := Option.some.inj h
      exact hcaptures _ habove
    · cases tie with
      | up =>
        obtain rfl := Option.some.inj h
        exact hcaptures _ habove
      | even =>
        obtain rfl := Option.some.inj h
        rcases heven with heven | heven <;> rw [heven]
        · exact hcaptures _ hbelow
        · exact hcaptures _ habove

theorem span_value (f : Format) (m : ℕ) (e : ℤ) :
    ((span f m e).value : ℚ) / (span f m e).den = 4 * m * 2 ^ (e - 2) := by
  have hunit := scale_unit e
  unfold span
  dsimp only
  rw [Nat.cast_mul, mul_div_assoc, hunit]
  push_cast
  rfl

theorem captures_above {v g : ℚ} (hg : g < 2 ^ (e - 1)) (hv : 4 * m * 2 ^ (e - 2) < v)
    (hle : v ≤ 4 * m * 2 ^ (e - 2) + g) : f.Captures m e v := by
  have hquarters : (0 : ℚ) < 2 ^ (e - 2) := by positivity
  have hhalf := two_zpow_sub_one e
  have hlow : (4 * m : ℚ) < v / 2 ^ (e - 2) := by rwa [lt_div_iff₀ hquarters]
  have hhigh : v / 2 ^ (e - 2) < 4 * m + 2 := by
    rw [div_lt_iff₀ hquarters]
    linarith
  have hmargin : (0 : ℚ) ≤ margin f m e := Nat.cast_nonneg _
  exact ⟨by linarith, hhigh.le, .inr ⟨by linarith, hhigh⟩⟩

theorem isSome_onGrid? (hm : m ≠ 0) (hq : (10 : ℚ) ^ q < 2 ^ (e - 1)) :
    ((span f m e).onGrid? tie q).isSome = true := by
  have hcaptures (k : ℕ) := (contains_grid_iff (f := f) (e := e) hm k q).mpr
  have hgrid : (0 : ℚ) < 10 ^ q := by positivity
  have hd := scale_den_pos (Nat.ofNat_pos (n := 10)) (span_den_pos f m e) (span f m e).value q
  have hvalue := scale_value (Nat.ofNat_pos (n := 10)) (span f m e).value (span f m e).den q
  rw [span_value] at hvalue
  unfold Span.onGrid?
  dsimp only
  generalize (scale 10 (span f m e).value (span f m e).den q).1 = n at hvalue ⊢
  generalize (scale 10 (span f m e).value (span f m e).den q).2 = d at hd hvalue ⊢
  have habove := hcaptures (n / d + 1) <| by
    have hfloor : n / d = ⌊(n : ℚ) / d⌋₊ := (Nat.floor_div_eq_div n d).symm
    have hle : ((n / d : ℕ) : ℚ) ≤ n / d := hfloor ▸ Nat.floor_le (by positivity)
    have hlt : (n : ℚ) / d < (n / d : ℕ) + 1 := hfloor ▸ Nat.lt_floor_add_one _
    have hnumber : (n : ℚ) / d * 10 ^ q = 4 * m * 2 ^ (e - 2) := by
      rw [hvalue, Nat.cast_ofNat, div_mul_cancel₀ _ hgrid.ne']
    apply captures_above hq
    · rw [← hnumber, Nat.cast_add_one]
      exact mul_lt_mul_of_pos_right hlt hgrid
    · rw [← hnumber, Nat.cast_add_one, add_one_mul]
      gcongr
  split
  case h_1 hnone => rw [habove] at hnone; cases hnone
  case h_2 hnone => rw [habove] at hnone; cases hnone
  case h_3 => rfl
  case h_4 => split_ifs <;> cases tie <;> rfl

theorem ten_zpow_le {k l : ℕ} (hk : k ≠ 0) (hlow : 2 ^ k ≤ 10 ^ l) (hhigh : 10 ^ l ≤ 2 ^ (k + 1))
    {t : ℤ} (ht : t ≤ k) : (10 : ℚ) ^ (t * l / k) ≤ 2 ^ (t + 1) := by
  have hlow' : (2 : ℚ) ^ (k : ℤ) ≤ 10 ^ (l : ℤ) := by exact_mod_cast hlow
  have hhigh' : (10 : ℚ) ^ (l : ℤ) ≤ 2 ^ (k + 1 : ℤ) := by exact_mod_cast hhigh
  have hroot : (10 : ℚ) ^ (t * l) ≤ 2 ^ ((t + 1) * k) := by
    rw [mul_comm t, zpow_mul]
    rcases Int.le_total 0 t with hpos | hneg
    · obtain ⟨s, rfl⟩ := Int.eq_ofNat_of_zero_le hpos
      calc ((10 : ℚ) ^ (l : ℤ)) ^ (s : ℤ) ≤ (2 ^ (k + 1 : ℤ)) ^ (s : ℤ) := by
            rw [zpow_natCast _ s, zpow_natCast _ s]
            gcongr
        _ = 2 ^ ((k + 1 : ℤ) * s) := (zpow_mul _ _ _).symm
        _ ≤ 2 ^ ((s + 1 : ℤ) * k) := zpow_le_zpow_right₀ one_le_two (by linarith)
    · obtain ⟨s, rfl⟩ : ∃ s : ℕ, t = -s := ⟨(-t).toNat, by omega⟩
      calc ((10 : ℚ) ^ (l : ℤ)) ^ (-(s : ℤ)) ≤ (2 ^ (k : ℤ)) ^ (-(s : ℤ)) := by
            rw [zpow_neg, zpow_neg, zpow_natCast _ s, zpow_natCast _ s]
            gcongr
        _ = 2 ^ ((k : ℤ) * -s) := (zpow_mul _ _ _).symm
        _ ≤ 2 ^ ((-s + 1 : ℤ) * k) := zpow_le_zpow_right₀ one_le_two (by linarith)
  have hfloor : t * l / k * k ≤ t * l := Int.ediv_mul_le _ (by exact_mod_cast hk)
  rw [← pow_le_pow_iff_left₀ (by positivity) (by positivity) hk, ← zpow_natCast, ← zpow_natCast,
    ← zpow_mul, ← zpow_mul]
  calc (10 : ℚ) ^ (t * l / k * k) ≤ 10 ^ (t * l) := by
        gcongr
        norm_num
    _ ≤ 2 ^ ((t + 1) * k) := hroot

structure Format.IsModest (f : Format) : Prop where
  precision_pos : 1 ≤ f.precision
  precision_le : f.precision ≤ 74
  least : -1199 ≤ f.minExponent
  greatest : f.maxExponent + f.precision ≤ 1200

theorem isModest_single : Format.single.IsModest := by
  constructor <;> decide

theorem isModest_double : Format.double.IsModest := by
  constructor <;> decide

theorem captures_shortest (hf : f.IsModest) (h : f.Holds m e) (hm : m ≠ 0) (tie : Tie) :
    f.Captures m e (shortest f tie m e).value := by
  have hlog : (m.log2 : ℤ) + 1 ≤ f.precision := by
    have hlt := (Nat.log2_lt hm).mpr h.fits
    omega
  have hprecision := hf.precision_le
  have hgreatest := hf.greatest
  unfold shortest
  dsimp only
  generalize htop : ((m.log2 : ℤ) + 1 + e) * 30103 / 100000 + 1 = top
  have hgrid : (10 : ℚ) ^ (top - (24 : ℕ)) < 2 ^ (e - 1) := by
    have hlogarithm : (10 : ℚ) ^ (((m.log2 : ℤ) + 1 + e) * 30103 / 100000) ≤
        2 ^ ((m.log2 : ℤ) + 1 + e + 1) :=
      ten_zpow_le (k := 100000) (l := 30103) (by decide) (by decide +kernel) (by decide +kernel)
        (by have := h.greatest; omega)
    have hsplit : top - (24 : ℕ) = ((m.log2 : ℤ) + 1 + e) * 30103 / 100000 - 23 := by omega
    have hnumbers : (2 : ℚ) ^ (76 : ℤ) < 10 ^ (23 : ℤ) := by norm_num
    rw [hsplit, zpow_sub₀ (by norm_num), div_lt_iff₀ (by positivity)]
    calc (10 : ℚ) ^ (((m.log2 : ℤ) + 1 + e) * 30103 / 100000)
        ≤ 2 ^ ((m.log2 : ℤ) + 1 + e + 1) := hlogarithm
      _ ≤ 2 ^ (e - 1 + 76) := zpow_le_zpow_right₀ one_le_two (by omega)
      _ = 2 ^ (e - 1) * 2 ^ (76 : ℤ) := zpow_add₀ two_ne_zero _ _
      _ < 2 ^ (e - 1) * 10 ^ (23 : ℤ) := by gcongr
  have hfound : ((span f m e).onGrid? tie (top - (24 : ℕ))).isSome = true :=
    isSome_onGrid? hm hgrid
  cases hx : (List.range 25).findSome? fun i : ℕ => (span f m e).onGrid? tie (top - i) with
  | none =>
    rw [List.findSome?_eq_none_iff] at hx
    rw [hx 24 (by decide)] at hfound
    cases hfound
  | some x =>
    obtain ⟨i, -, hi⟩ := List.exists_of_findSome?_eq_some hx
    exact captures_of_onGrid? hm hi

theorem Format.Captures.bounds {v : ℚ} (h : f.Captures m e v) (hholds : f.Holds m e) (hm : m ≠ 0) :
    (2 : ℚ) ^ (e - 1) ≤ v ∧ v < 2 ^ (e + f.precision) := by
  have hquarters : (0 : ℚ) < 2 ^ (e - 2) := by positivity
  have hmargin := cast_margin_le f m e
  have hone : (1 : ℚ) ≤ m := by exact_mod_cast Nat.one_le_iff_ne_zero.mpr hm
  have hfits : (m : ℚ) + 1 ≤ 2 ^ f.precision := by exact_mod_cast hholds.fits
  obtain ⟨hlow, hhigh, -⟩ := h
  rw [le_div_iff₀ hquarters] at hlow
  rw [div_le_iff₀ hquarters] at hhigh
  rw [two_zpow_sub_one, two_zpow_sub_two, zpow_natCast]
  constructor <;> nlinarith

theorem digits_ne_zero (h : f.Captures m e x.value) (hm : m ≠ 0) : x.digits ≠ 0 := by
  intro hzero
  have hpos := h.pos hm
  rw [Decimal.value, hzero, Nat.cast_zero, zero_mul] at hpos
  exact lt_irrefl _ hpos

theorem two_zpow_le_ten_zpow {k : ℤ} (hk : 0 ≤ k) : (2 : ℚ) ^ (3 * k) ≤ 10 ^ k := by
  obtain ⟨j, rfl⟩ := Int.eq_ofNat_of_zero_le hk
  rw [zpow_mul, zpow_natCast, zpow_natCast]
  gcongr
  norm_num

theorem size_le (h : f.Captures m e x.value) (hholds : f.Holds m e) (hm : m ≠ 0) {k : ℤ}
    (hk : 0 ≤ k) (hmax : f.maxExponent + f.precision ≤ 3 * k) : x.size ≤ k := by
  by_contra hlt
  have hpower : (2 : ℚ) ^ (3 * k) < 2 ^ (e + f.precision) := by
    calc (2 : ℚ) ^ (3 * k) ≤ 10 ^ k := two_zpow_le_ten_zpow hk
      _ ≤ 10 ^ (x.size - 1) := zpow_le_zpow_right₀ (by norm_num) (by omega)
      _ ≤ x.value := (Decimal.value_bounds (digits_ne_zero h hm)).1
      _ < 2 ^ (e + f.precision) := (h.bounds hholds hm).2
  have hexponents := (zpow_lt_zpow_iff_right₀ one_lt_two).mp hpower
  have := hholds.greatest
  omega

theorem lt_size (h : f.Captures m e x.value) (hholds : f.Holds m e) (hm : m ≠ 0) {k : ℤ}
    (hk : 0 ≤ k) (hmin : 1 - f.minExponent ≤ 3 * k) : -k < x.size := by
  by_contra hle
  have hpower : (2 : ℚ) ^ (e - 1) < 2 ^ (-(3 * k)) := by
    calc (2 : ℚ) ^ (e - 1) ≤ x.value := (h.bounds hholds hm).1
      _ < 10 ^ x.size := (Decimal.value_bounds (digits_ne_zero h hm)).2
      _ ≤ 10 ^ (-k) := zpow_le_zpow_right₀ (by norm_num) (by omega)
      _ ≤ 2 ^ (-(3 * k)) := by
        rw [zpow_neg, zpow_neg]
        gcongr
        exact two_zpow_le_ten_zpow hk
  have hexponents := (zpow_lt_zpow_iff_right₀ one_lt_two).mp hpower
  have := hholds.least
  omega

theorem round_of_captures (negative : Bool) (hf : f.IsModest) (hholds : f.Holds m e) (hm : m ≠ 0)
    (h : f.Captures m e x.value) : x.round f negative = .finite negative m e := by
  have hle : x.size ≤ 400 := size_le h hholds hm (by decide) hf.greatest
  have hlt : -400 < x.size := lt_size h hholds hm (by decide) (by have := hf.least; omega)
  unfold Decimal.size at hle hlt
  rw [Decimal.round, if_neg, if_neg (not_lt.mpr hle)]
  · have hden := scale_den_pos (Nat.ofNat_pos (n := 10)) one_pos x.digits (-x.exponent)
    exact round_eq negative hf.precision_pos hden.ne' hm hholds
      (scale_ten_value x.digits x.exponent) h
  · rw [not_or]
    exact ⟨digits_ne_zero h hm, by omega⟩

end Binary

end PromptRelay
