import PromptRelay.Proofs.Binary.Spelling
import PromptRelay.Proofs.Json.Tokens

namespace PromptRelay.Json.Numeral

open Binary (Format Spelling)
open Binary.Spelling (exponentChars fractionChars)

theorem round_double_le {num den : ℕ} {k : ℤ} (hden : den ≠ 0) (h : (num : ℚ) / den ≤ 2 ^ k)
    (hmin : 0 ≤ k) (hmax : k ≤ 1000) :
    ∃ m e, Binary.round .double false num den = .finite false m e ∧ (m : ℚ) * 2 ^ e ≤ 2 ^ k := by
  have hdouble : Format.double.minExponent = -1074 ∧ Format.double.maxExponent = 971 ∧
      Format.double.precision = 53 := by decide
  apply Binary.round_le false (by decide) hden (by omega) (by decide) (by omega) h

theorem ofNat_double_le {n : ℕ} {k : ℤ} (h : (n : ℚ) ≤ 2 ^ k) (hmin : 0 ≤ k) (hmax : k ≤ 1000) :
    ∃ m e, Binary.ofNat .double n = .finite false m e ∧ (m : ℚ) * 2 ^ e ≤ 2 ^ k := by
  apply round_double_le one_ne_zero ?_ hmin hmax
  rwa [Nat.cast_one, div_one]

theorem mul_double_le {m₁ m₂ : ℕ} {e₁ e₂ j k : ℤ} (h₁ : (m₁ : ℚ) * 2 ^ e₁ ≤ 2 ^ j)
    (h₂ : (m₂ : ℚ) * 2 ^ e₂ ≤ 2 ^ k) (hmin : 0 ≤ j + k) (hmax : j + k ≤ 1000) :
    ∃ m e, Binary.mul .double (.finite false m₁ e₁) (.finite false m₂ e₂) = .finite false m e := by
  generalize hq : (m₁ : ℚ) * 2 ^ e₁ * (m₂ * 2 ^ e₂) = q
  have hpos : 0 ≤ q := by
    rw [← hq]
    positivity
  have hle : q ≤ 2 ^ (j + k) := by
    rw [← hq, zpow_add₀ two_ne_zero]
    gcongr
  have hvalue : (q.num.natAbs : ℚ) / q.den = q := by
    have hnum : ((q.num.natAbs : ℤ) : ℚ) = q.num := by
      rw [Int.natAbs_of_nonneg (Rat.num_nonneg.mpr hpos)]
    rw [← Int.cast_natCast, hnum, Rat.num_div_den]
  obtain ⟨m, e, hround, -⟩ := round_double_le q.den_nz (hvalue ▸ hle) hmin hmax
  refine ⟨m, e, ?_⟩
  rw [Binary.mul, Binary.toRat?_finite, Binary.toRat?_finite]
  simp only [Bool.false_eq_true, if_false, one_mul, hq, Binary.ofRat]
  rw [decide_eq_false (not_lt.mpr hpos), hround]

theorem exists_scaled {n : ℕ} {e : ℤ} (hn : n < Nat.pow 2 64) (he : e ≤ 200) :
    ∃ y, scaled? n e = some y := by
  have hn' : (n : ℚ) ≤ 2 ^ (64 : ℤ) := by exact_mod_cast hn.le
  obtain ⟨m₁, e₁, hsignificand, hle₁⟩ := ofNat_double_le hn' (by decide) (by decide)
  have hpower : ((Nat.pow 10 e.toNat : ℕ) : ℚ) ≤ 2 ^ (800 : ℤ) := by
    have hle : Nat.pow 10 e.toNat ≤ 2 ^ 800 :=
      calc Nat.pow 10 e.toNat ≤ 10 ^ 200 := Nat.pow_le_pow_right (by decide) (by omega)
        _ ≤ 2 ^ 800 := by decide +kernel
    exact_mod_cast hle
  obtain ⟨m₂, e₂, hscale, hle₂⟩ := ofNat_double_le hpower (by decide) (by decide)
  obtain ⟨m, e', hproduct⟩ := mul_double_le hle₁ hle₂ (by decide) (by decide)
  rw [← power] at hscale
  unfold scaled?
  rw [hsignificand, hscale]
  dsimp only
  rw [hproduct]
  split_ifs with hneg hzero hlarge
  · exact ⟨_, rfl⟩
  · exact ⟨_, rfl⟩
  · have hgreatest : greatestPower = 308 := rfl
    omega
  · exact ⟨_, rfl⟩

theorem accumulate_bounds {n : ℕ} (hn : n < Nat.pow 2 64) (s : List Char) :
    (accumulate n s).1 < Nat.pow 2 64 ∧ (accumulate n s).2 ≤ s.length := by
  induction s generalizing n with
  | nil => exact ⟨hn, le_rfl⟩
  | cons c s ih =>
    rw [accumulate]
    dsimp only
    split_ifs with hlt
    · exact ⟨(ih hlt).1, Nat.succ_le_succ (ih hlt).2⟩
    · exact ⟨hn, Nat.zero_le _⟩

def ReadsFloat (read : Cursor → Except Error (Numeral × Cursor)) (text : List Char) : Prop :=
  ∃ x, ∀ rest, Ends rest → Reads read text (.float x) rest

theorem ReadsFloat.of_step {read read' : Cursor → Except Error (Numeral × Cursor)}
    {text text' : List Char} (h : ReadsFloat read' text')
    (hstep : ∀ rest, Ends rest → ∀ k : Cursor, k.rest = text ++ rest →
      ∃ k' : Cursor, k'.rest = text' ++ rest ∧ read k = read' k') : ReadsFloat read text := by
  obtain ⟨x, hx⟩ := h
  refine ⟨x, fun rest hrest k hk => ?_⟩
  obtain ⟨k', hk', hread⟩ := hstep rest hrest k hk
  rw [hread]
  exact hx rest hrest k' hk'

variable {n : ℕ} {e : ℤ} (negative : Bool)

theorem readsFloat_finish (hn : n < Nat.pow 2 64) (he : e ≤ 200) :
    ReadsFloat (finish · negative n e) [] := by
  obtain ⟨y, hy⟩ := exists_scaled hn he
  refine ⟨signed negative y, fun rest _ k hk => ⟨k, ?_, hk⟩⟩
  simp only [finish, hy]

theorem overLimit?_eq_none {digits : List Char} {n : ℕ}
    (h : Nat.ofDigitChars 10 digits n ≤ exponentLimit) : overLimit? n digits = none := by
  induction digits generalizing n with
  | nil => rfl
  | cons c digits ih =>
    rw [Nat.ofDigitChars_cons] at h
    have hle := (le_ofDigitChars digits _).trans h
    have hzero : '0'.toNat = 48 := rfl
    rw [hzero] at h hle
    simp [overLimit?, Nat.not_lt.mpr hle, ih h]

theorem readsFloat_readExponent (exponent : ℤ) (hn : n < Nat.pow 2 64) (he : e ≤ 200)
    (hexponent : exponent ≤ 200) (hsum : e + exponent ≤ 200) :
    ReadsFloat (readExponent · negative n e) (exponentChars (some exponent)) := by
  have hempty : (Nat.toDigits 10 exponent.natAbs).isEmpty = false := by simp [Nat.toDigits_ne_nil]
  -- A cursor before an exponent goes past its letter and its sign.
  have hplaces {k : Cursor} {rest : List Char} (hrest : Ends rest)
      (hk : k.rest = exponentChars (some exponent) ++ rest) :
      k.next.peek = (if exponent < 0 then '-' else '+') ∧ k.next.next.rest.isEmpty = false ∧
        k.next.next.rest.takeWhile Char.isDigit = Nat.toDigits 10 exponent.natAbs ∧
          (k.next.next.skip Char.isDigit).rest = rest := by
    rw [exponentChars, List.cons_append, List.cons_append] at hk
    have hdigits := Cursor.rest_next (Cursor.rest_next hk)
    refine ⟨Cursor.peek_eq (Cursor.rest_next hk), ?_, ?_, ?_⟩
    · simp [hdigits, Nat.toDigits_ne_nil]
    · rw [hdigits, takeWhile_run (isDigit_toDigits _) hrest.head]
    · rw [Cursor.rest_skip, hdigits, dropWhile_run (isDigit_toDigits _) hrest.head]
  by_cases hneg : exponent < 0
  · cases hlimit : overLimit? 0 (Nat.toDigits 10 exponent.natAbs) with
    | some i =>
      refine ⟨signed negative (Binary.ofNat .double 0), fun rest hrest k hk => ?_⟩
      obtain ⟨hpeek, hsome, htake, hskip⟩ := hplaces hrest hk
      rw [if_pos hneg] at hpeek
      refine ⟨_, ?_, hskip⟩
      simp [readExponent, hpeek, htake, hempty, hsome, hlimit]
    | none =>
      apply (readsFloat_finish negative hn
        (e := e - (accumulate 0 (Nat.toDigits 10 exponent.natAbs)).1) (by omega)).of_step
      intro rest hrest k hk
      obtain ⟨hpeek, hsome, htake, hskip⟩ := hplaces hrest hk
      rw [if_pos hneg] at hpeek
      refine ⟨_, hskip, ?_⟩
      simp [readExponent, hpeek, htake, hempty, hsome, hlimit]
  · have hvalue : Nat.ofDigitChars 10 (Nat.toDigits 10 exponent.natAbs) 0 = exponent.natAbs :=
      Nat.ofDigitChars_ten_toDigits
    have hlimit : overLimit? 0 (Nat.toDigits 10 exponent.natAbs) = none := by
      apply overLimit?_eq_none
      have hlimit : exponentLimit = 2147483647 := rfl
      omega
    have hsmall : Nat.ofDigitChars 10 (Nat.toDigits 10 exponent.natAbs) 0 < Nat.pow 2 64 := by
      have hpow : Nat.pow 2 64 = 18446744073709551616 := rfl
      omega
    have habs : ((accumulate 0 (Nat.toDigits 10 exponent.natAbs)).1 : ℤ) = exponent := by
      rw [accumulate_eq _ _ hsmall, hvalue]
      omega
    apply (readsFloat_finish negative hn hsum).of_step
    intro rest hrest k hk
    obtain ⟨hpeek, hsome, htake, hskip⟩ := hplaces hrest hk
    rw [if_neg hneg] at hpeek
    refine ⟨_, hskip, ?_⟩
    simp [readExponent, hpeek, htake, hempty, hsome, hlimit, habs]

theorem readsFloat_readScale (exponent : Option ℤ) (hn : n < Nat.pow 2 64) (he : e ≤ 200)
    (hexponent : exponent.getD 0 ≤ 200) (hsum : e + exponent.getD 0 ≤ 200) :
    ReadsFloat (readScale · negative n e) (exponentChars exponent) := by
  cases exponent with
  | none =>
    apply (readsFloat_finish negative hn he).of_step
    intro rest hrest k hk
    have hpeek := Ends.peek (k := k) (hk ▸ hrest)
    refine ⟨k, hk, ?_⟩
    simp [readScale, hpeek]
  | some exponent =>
    apply (readsFloat_readExponent negative exponent hn he hexponent hsum).of_step
    intro rest hrest k hk
    have hpeek : k.peek = 'e' := Cursor.peek_eq hk
    refine ⟨k, hk, ?_⟩
    simp [readScale, hpeek]

theorem not_digit_of_mem_head?_append (exponent : Option ℤ) {rest : List Char} (h : Ends rest) :
    ∀ c ∈ (exponentChars exponent ++ rest).head?, c.isDigit = false := by
  cases exponent with
  | none => exact h.head
  | some exponent =>
    rintro c ⟨⟩
    rfl

theorem readsFloat_readFraction {fraction : List Char} (exponent : Option ℤ)
    (hn : n < Nat.pow 2 64) (he : e ≤ 200) (hexponent : exponent.getD 0 ≤ 200)
    (hsum : e + exponent.getD 0 ≤ 200) (hne : fraction ≠ [])
    (hdigits : ∀ c ∈ fraction, c.isDigit = true) :
    ReadsFloat (readFraction · negative n e) ('.' :: (fraction ++ exponentChars exponent)) := by
  obtain ⟨hsmall, -⟩ := accumulate_bounds hn fraction
  apply (readsFloat_readScale negative exponent (e := e - (accumulate n fraction).2) hsmall
    (by omega) hexponent (by omega)).of_step
  intro rest hrest k hk
  rw [List.cons_append, List.append_assoc] at hk
  have hnext := Cursor.rest_next hk
  have hhead := not_digit_of_mem_head?_append exponent hrest
  have htake : k.next.rest.takeWhile Char.isDigit = fraction := by
    rw [hnext, takeWhile_run hdigits hhead]
  have hskip : (k.next.skip Char.isDigit).rest = exponentChars exponent ++ rest := by
    rw [Cursor.rest_skip, hnext, dropWhile_run hdigits hhead]
  have hsome : k.next.rest.isEmpty = false := by simp [hnext, hne]
  refine ⟨_, hskip, ?_⟩
  simp [readFraction, htake, hsome, hne]

theorem readsFloat_readUnsigned {s : Spelling} (h : s.Regular)
    (hsum : s.whole.length + max 0 (s.exponent.getD 0) ≤ 200) :
    ReadsFloat (readUnsigned · negative) s.chars := by
  obtain ⟨hsmall, -⟩ := accumulate_bounds (Nat.pow_pos two_pos) s.whole
  -- Behind the whole digits there is a point or an exponent.
  have hplaces {k : Cursor} {rest : List Char} (hrest : Ends rest)
      (hk : k.rest = s.chars ++ rest) :
      k.rest.takeWhile Char.isDigit = s.whole ∧ (k.skip Char.isDigit).rest =
        fractionChars s.fraction ++ exponentChars s.exponent ++ rest := by
    have htail : ∀ c ∈ (fractionChars s.fraction ++ exponentChars s.exponent ++ rest).head?,
        c.isDigit = false := by
      cases s.fraction with
      | nil => exact not_digit_of_mem_head?_append s.exponent hrest
      | cons d ds =>
        rintro c ⟨⟩
        rfl
    rw [Spelling.chars, List.append_assoc] at hk
    constructor
    · rw [hk, takeWhile_run h.whole_digits htail]
    · rw [Cursor.rest_skip, hk, dropWhile_run h.whole_digits htail]
  cases hfraction : s.fraction with
  | nil =>
    obtain ⟨exponent, hexponent⟩ := Option.ne_none_iff_exists'.mp
      (h.parted.resolve_left (not_not.mpr hfraction))
    rw [hexponent, Option.getD_some] at hsum
    apply (readsFloat_readExponent negative exponent
      (e := (s.whole.length - (accumulate 0 s.whole).2 : ℕ)) hsmall (by omega) (by omega)
      (by omega)).of_step
    intro rest hrest k hk
    obtain ⟨htake, hskip⟩ := hplaces hrest hk
    rw [hfraction, hexponent, fractionChars, List.nil_append] at hskip
    have hpeek : (k.skip Char.isDigit).peek = 'e' := Cursor.peek_eq hskip
    refine ⟨_, hskip, ?_⟩
    simp only [readUnsigned, htake]
    split
    next hnil => exact absurd hnil h.whole_ne
    next hzero => exact absurd hzero (h.lead _ _)
    next => simp [hpeek]
  | cons d ds =>
    have hdigits := h.fraction_digits
    rw [hfraction] at hdigits
    apply (readsFloat_readFraction negative s.exponent
      (e := (s.whole.length - (accumulate 0 s.whole).2 : ℕ)) hsmall (by omega) (by omega) (by omega)
      (List.cons_ne_nil d ds) hdigits).of_step
    intro rest hrest k hk
    obtain ⟨htake, hskip⟩ := hplaces hrest hk
    rw [hfraction, fractionChars] at hskip
    have hpeek : (k.skip Char.isDigit).peek = '.' := Cursor.peek_eq hskip
    refine ⟨_, hskip, ?_⟩
    simp only [readUnsigned, htake]
    split
    next hnil => exact absurd hnil h.whole_ne
    next hzero => exact absurd hzero (h.lead _ _)
    next => simp [hpeek]

theorem readsFloat_read {s : Spelling} (h : s.Regular)
    (hsum : s.whole.length + max 0 (s.exponent.getD 0) ≤ 200) :
    ReadsFloat read (Binary.signChars negative ++ s.chars) := by
  apply (readsFloat_readUnsigned negative h hsum).of_step
  intro rest hrest k hk
  cases negative with
  | true =>
    have hpeek : k.peek = '-' := Cursor.peek_eq hk
    refine ⟨k.next, Cursor.rest_next hk, ?_⟩
    simp [read, hpeek]
  | false =>
    obtain ⟨c, t, hct, hc⟩ := Binary.exists_chars_eq h
    have hstart : k.rest = s.chars ++ rest := hk
    have hpeek : k.peek ≠ '-' := by
      rw [hct, List.cons_append] at hstart
      rw [Cursor.peek_eq hstart]
      rintro rfl
      cases hc
    refine ⟨k, hstart, ?_⟩
    simp [read, hpeek]

theorem isText_spelling {s : Spelling} (h : s.Regular)
    (hsum : s.whole.length + max 0 (s.exponent.getD 0) ≤ 200) :
    ∃ x, IsText (Binary.signChars negative ++ s.chars) (.float x) := by
  obtain ⟨x, hx⟩ := readsFloat_read negative h hsum
  refine ⟨x, ?_, hx⟩
  cases negative with
  | true => exact ⟨'-', s.chars, rfl, .inl rfl⟩
  | false =>
    obtain ⟨c, t, hct, hc⟩ := Binary.exists_chars_eq h
    exact ⟨c, t, hct, .inr hc⟩

theorem exists_isText_single {m : ℕ} (h : Format.single.Holds m e) :
    ∃ x, IsText (numbers.write .single (.finite negative m e)).toList (.float x) := by
  have hreach : Format.single.maxExponent + Format.single.precision ≤ 3 * 43 := by decide
  obtain ⟨s, htext, hs, -, hwhole, hexponent⟩ := Binary.exists_spelling_write (l := numbers) rfl
    Binary.isModest_single (by decide) hreach h negative
  rw [htext]
  exact isText_spelling negative hs (by omega)

end PromptRelay.Json.Numeral
