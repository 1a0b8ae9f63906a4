import PromptRelay.Json.Shape
import PromptRelay.Proofs.Text.Digits
import PromptRelay.Proofs.Utf8.SequenceTable

namespace PromptRelay.Json

/-- From every place before the text and `rest`, the text is read as `x`, and `rest` is left. -/
def Reads {α : Type} (read : Cursor → Except Error (α × Cursor)) (text : List Char) (x : α)
    (rest : List Char) : Prop :=
  ∀ k : Cursor, k.rest = text ++ rest → ∃ k', read k = .ok (x, k') ∧ k'.rest = rest

namespace Cursor

variable {k : Cursor} {c : Char} {s : List Char}

theorem rest_next (h : k.rest = c :: s) : k.next.rest = s := by
  unfold next
  split
  next hnil => simp [hnil] at h
  next hnewline => simp_all
  next hcons => simp_all

theorem peek?_eq (h : k.rest = c :: s) : k.peek? = some c := by
  rw [peek?, h]
  rfl

theorem peek_eq (h : k.rest = c :: s) : k.peek = c := by
  rw [peek, peek?_eq h]
  rfl

theorem skip_eq_self {p : Char → Bool} (h : k.rest = c :: s) (hc : p c = false) :
    k.skip p = k := by
  obtain ⟨line, column, rest⟩ := k
  obtain rfl : rest = c :: s := h
  simp [skip, skipWhile, hc]

theorem rest_skipWhile (p : Char → Bool) (line column : ℕ) (s : List Char) :
    (skipWhile p line column s).rest = s.dropWhile p := by
  induction s generalizing line column with
  | nil => rfl
  | cons c s ih =>
    rw [skipWhile, List.dropWhile_cons]
    by_cases hc : p c = true
    · rw [if_neg (by simp [hc]), if_pos hc]
      split_ifs <;> exact ih _ _
    · rw [if_pos (by simp [hc]), if_neg hc]

theorem rest_skip (p : Char → Bool) (k : Cursor) : (k.skip p).rest = k.rest.dropWhile p :=
  rest_skipWhile p _ _ _

theorem exists_word (w : List Char) {rest : List Char} (h : k.rest = w ++ rest) :
    ∃ k', k.word w = .ok k' ∧ k'.rest = rest := by
  induction w generalizing k with
  | nil => exact ⟨k, rfl, h⟩
  | cons c w ih =>
    rw [word, peek?_eq h]
    simpa using ih (rest_next h)

end Cursor

theorem ahead_eq {k : Cursor} {c : Char} {s : List Char} (h : k.rest = c :: s)
    (hc : Cursor.isBlank c = false) (problem : Problem) : ahead k problem = .ok k := by
  rw [ahead, Cursor.skipBlanks, Cursor.skip_eq_self h hc, h]
  rfl

theorem readColon_eq {k : Cursor} {s : List Char} (h : k.rest = ':' :: s) :
    readColon k = .ok k.next := by
  have hahead := ahead_eq h rfl .endInObject
  simp [readColon, hahead, Cursor.peek_eq h, bind, Except.bind, pure, Except.pure]

def IsPrintable (text : List Char) : Prop :=
  ∀ c ∈ text, 0x20 ≤ c.toNat

instance (text : List Char) : Decidable (IsPrintable text) :=
  List.decidableBAll _ text

theorem isPrintable_append {xs ys : List Char} :
    IsPrintable (xs ++ ys) ↔ IsPrintable xs ∧ IsPrintable ys :=
  List.forall_mem_append

theorem isPrintable_cons {c : Char} {s : List Char} :
    IsPrintable (c :: s) ↔ 0x20 ≤ c.toNat ∧ IsPrintable s :=
  List.forall_mem_cons

theorem IsPrintable.newline_not_mem {text : List Char} (h : IsPrintable text) : '\n' ∉ text :=
  fun hmem => absurd (h _ hmem) (by decide)

theorem isPrintable_hexDigit {n : ℕ} (h : n < 16) : IsPrintable [hexDigit n] := by
  interval_cases n <;> decide

theorem isPrintable_escapeChar (c : Char) : IsPrintable (escapeChar c) := by
  unfold escapeChar
  split_ifs with hquote hbackslash hplain
  case pos => decide
  case pos => decide
  case pos => simpa [IsPrintable] using hplain
  case neg =>
    have hhigh := isPrintable_hexDigit (n := c.toNat / 16) (by omega)
    have hlow := isPrintable_hexDigit (n := c.toNat % 16) (by omega)
    have hstart : IsPrintable ['\\', 'u', '0', '0'] := by decide
    exact isPrintable_append.mpr ⟨hstart, isPrintable_append.mpr ⟨hhigh, hlow⟩⟩
  all_goals decide

theorem isPrintable_stringText (s : String) : IsPrintable (stringText s) := by
  have hescaped : IsPrintable (s.toList.flatMap escapeChar) := by
    intro c hc
    obtain ⟨d, -, hmem⟩ := List.mem_flatMap.mp hc
    exact isPrintable_escapeChar d c hmem
  rw [stringText, isPrintable_cons, isPrintable_append]
  exact ⟨by decide, hescaped, by decide⟩

namespace Quotation

open Text (hexValue? isLeading isTrailing)

theorem hexValue?_hexDigit {n : ℕ} (h : n < 16) : hexValue? (hexDigit n) = some n := by
  interval_cases n <;> decide

theorem readUnit_eq {k : Cursor} {c : Char} {rest : List Char} (hc : c.toNat < 0x100)
    (h : k.rest = '0' :: '0' :: hexDigit (c.toNat / 16) :: hexDigit (c.toNat % 16) :: rest) :
    readUnit k = .ok (c.toNat, k.next.next.next.next) := by
  have hhigh := hexValue?_hexDigit (n := c.toNat / 16) (by omega)
  have hlow := hexValue?_hexDigit (n := c.toNat % 16) (by omega)
  have hzero : hexValue? '0' = some 0 := by decide
  have hsum : c.toNat / 16 * 16 + c.toNat % 16 = c.toNat := by omega
  simp [readUnit, h, hhigh, hlow, hzero, hsum]

theorem readEscape_of_short {x c : Char} (h : short? x = some c) (rest : List Char) :
    Reads readEscape [x] c rest := by
  intro k hk
  have hx : x ≠ 'u' := by
    rintro rfl
    cases h
  refine ⟨k.next, ?_, Cursor.rest_next hk⟩
  rw [readEscape, Cursor.peek?_eq hk]
  simp [h]

theorem readEscape_of_control {c : Char} (h : c.toNat < 0x20) (rest : List Char) :
    Reads readEscape ['u', '0', '0', hexDigit (c.toNat / 16), hexDigit (c.toNat % 16)] c rest := by
  intro k hk
  have hunit := readUnit_eq (by omega) (Cursor.rest_next hk)
  have htrailing : isTrailing c.toNat = false := by
    simp only [isTrailing, Bool.and_eq_false_iff, decide_eq_false_iff_not]
    omega
  have hleading : isLeading c.toNat = false := by
    simp only [isLeading, Bool.and_eq_false_iff, decide_eq_false_iff_not]
    omega
  refine ⟨k.next.next.next.next.next, ?_, ?_⟩
  · rw [readEscape, Cursor.peek?_eq hk]
    simp [readCode, hunit, htrailing, hleading, bind, Except.bind, pure, Except.pure]
  · have hdigits := Cursor.rest_next (Cursor.rest_next (Cursor.rest_next hk))
    exact Cursor.rest_next (Cursor.rest_next hdigits)

theorem escapeChar_cases (c : Char) :
    (escapeChar c = [c] ∧ c ≠ '"' ∧ c ≠ '\\' ∧ 0x20 ≤ c.toNat) ∨
      ∃ s, escapeChar c = '\\' :: s ∧ ∀ rest, Reads readEscape s c rest := by
  unfold escapeChar
  split_ifs with hquote hbackslash hplain hb ht hn hf hr
  · exact .inr ⟨_, rfl, readEscape_of_short (congrArg some hquote.symm)⟩
  · exact .inr ⟨_, rfl, readEscape_of_short (congrArg some hbackslash.symm)⟩
  · exact .inl ⟨rfl, hquote, hbackslash, hplain⟩
  · exact .inr ⟨_, rfl, readEscape_of_short (congrArg some hb.symm)⟩
  · exact .inr ⟨_, rfl, readEscape_of_short (congrArg some ht.symm)⟩
  · exact .inr ⟨_, rfl, readEscape_of_short (congrArg some hn.symm)⟩
  · exact .inr ⟨_, rfl, readEscape_of_short (congrArg some hf.symm)⟩
  · exact .inr ⟨_, rfl, readEscape_of_short (congrArg some hr.symm)⟩
  · exact .inr ⟨_, rfl, readEscape_of_control (by omega)⟩

theorem readUpTo_escaped {s : List Char} {bound : ℕ} (h : s.length < bound) (rest : List Char) :
    Reads (readUpTo bound) (s.flatMap escapeChar ++ ['"']) s rest := by
  induction s generalizing bound with
  | nil =>
    intro k hk
    obtain ⟨bound, rfl⟩ := Nat.exists_eq_add_of_lt h
    refine ⟨k.next, ?_, Cursor.rest_next hk⟩
    rw [List.length_nil, Nat.zero_add, readUpTo, Cursor.peek?_eq hk]
    rfl
  | cons c s ih =>
    intro k hk
    obtain ⟨bound, rfl⟩ : ∃ n, bound = n + 1 := ⟨bound - 1, by omega⟩
    have hrest : s.length < bound := by simpa using h
    rw [List.flatMap_cons, List.append_assoc, List.append_assoc] at hk
    rcases escapeChar_cases c with ⟨hc, hquote, hbackslash, hplain⟩ | ⟨e, hc, he⟩
    · rw [hc] at hk
      obtain ⟨k', hread, hk'⟩ := ih hrest k.next (by simpa using Cursor.rest_next hk)
      refine ⟨k', ?_, hk'⟩
      rw [readUpTo, Cursor.peek?_eq hk]
      simp [hquote, hbackslash, Nat.not_lt.mpr hplain, hread, bind, Except.bind, pure, Except.pure]
    · rw [hc] at hk
      obtain ⟨k₁, hescape, hk₁⟩ := he _ k.next (Cursor.rest_next hk)
      obtain ⟨k', hread, hk'⟩ := ih hrest k₁ (by simpa using hk₁)
      refine ⟨k', ?_, hk'⟩
      rw [readUpTo, Cursor.peek?_eq hk]
      simp [hescape, hread, bind, Except.bind, pure, Except.pure]

theorem length_le_flatMap_escapeChar (s : List Char) :
    s.length ≤ (s.flatMap escapeChar).length := by
  induction s with
  | nil => exact Nat.le_refl _
  | cons c s ih =>
    have hone : 1 ≤ (escapeChar c).length := by
      rcases escapeChar_cases c with ⟨hc, -⟩ | ⟨e, hc, -⟩ <;> simp [hc]
    rw [List.flatMap_cons, List.length_append, List.length_cons]
    omega

theorem read_stringText (s : String) (rest : List Char) :
    Reads read (s.toList.flatMap escapeChar ++ ['"']) s rest := by
  intro k hk
  have hbound : s.toList.length < k.rest.length + 1 := by
    have hle := length_le_flatMap_escapeChar s.toList
    rw [hk, List.length_append, List.length_append]
    omega
  obtain ⟨k', hread, hk'⟩ := readUpTo_escaped hbound rest k hk
  refine ⟨k', ?_, hk'⟩
  simp [read, hread, bind, Except.bind, pure, Except.pure]

end Quotation

namespace Numeral

theorem le_ofDigitChars (digits : List Char) (n : ℕ) : n ≤ Nat.ofDigitChars 10 digits n := by
  induction digits generalizing n with
  | nil => exact Nat.le_refl n
  | cons c digits ih =>
    rw [Nat.ofDigitChars_cons]
    have hle := ih (10 * n + (c.toNat - '0'.toNat))
    omega

theorem accumulate_eq (digits : List Char) (n : ℕ)
    (h : Nat.ofDigitChars 10 digits n < Nat.pow 2 64) :
    accumulate n digits = (Nat.ofDigitChars 10 digits n, digits.length) := by
  induction digits generalizing n with
  | nil => rfl
  | cons c digits ih =>
    rw [Nat.ofDigitChars_cons] at h ⊢
    have hlt := Nat.lt_of_le_of_lt (le_ofDigitChars _ _) h
    have hzero : '0'.toNat = 48 := rfl
    rw [hzero] at h hlt ⊢
    simp [accumulate, hlt, ih _ h]

def Ends (rest : List Char) : Prop :=
  ∀ c s, rest = c :: s → c.isDigit = false ∧ c ≠ '.' ∧ c ≠ 'e' ∧ c ≠ 'E'

theorem Ends.head {rest : List Char} (h : Ends rest) : ∀ c ∈ rest.head?, c.isDigit = false := by
  intro c hc
  obtain ⟨s, rfl⟩ := List.head?_eq_some_iff.mp hc
  exact (h c s rfl).1

theorem Ends.peek {k : Cursor} (h : Ends k.rest) : k.peek ≠ '.' ∧ k.peek ≠ 'e' ∧ k.peek ≠ 'E' := by
  cases hk : k.rest with
  | nil => simp [Cursor.peek, Cursor.peek?, hk]
  | cons c s =>
    rw [Cursor.peek_eq hk]
    exact (h c s hk).2

structure IsText (text : List Char) (n : Numeral) : Prop where
  head : ∃ c s, text = c :: s ∧ (c = '-' ∨ c.isDigit = true)
  reads : ∀ rest, Ends rest → Reads read text n rest

theorem ne_of_start {c d : Char} (h : c = '-' ∨ c.isDigit = true) (hsign : d ≠ '-')
    (hdigit : d.isDigit = false) : c ≠ d := by
  rintro rfl
  rcases h with rfl | h
  · exact hsign rfl
  · rw [hdigit] at h
    cases h

theorem read_toDigits {n : ℕ} (h : n < Nat.pow 2 64) {rest : List Char} (hrest : Ends rest) :
    Reads read (Nat.toDigits 10 n) (.nat n) rest := by
  intro k hk
  have hdigits := isDigit_toDigits n
  have htake : k.rest.takeWhile Char.isDigit = Nat.toDigits 10 n := by
    rw [hk, takeWhile_run hdigits hrest.head]
  have hafter : (k.skip Char.isDigit).rest = rest := by
    rw [Cursor.rest_skip, hk, dropWhile_run hdigits hrest.head]
  have hsum : accumulate 0 (Nat.toDigits 10 n) = (n, (Nat.toDigits 10 n).length) := by
    have hvalue : Nat.ofDigitChars 10 (Nat.toDigits 10 n) 0 = n := Nat.ofDigitChars_ten_toDigits
    rw [accumulate_eq _ _ (hvalue.symm ▸ h), hvalue]
  have hpeek := (hafter ▸ hrest : Ends (k.skip Char.isDigit).rest).peek
  refine ⟨k.skip Char.isDigit, ?_, hafter⟩
  obtain ⟨c, s, hcs⟩ := List.exists_cons_of_ne_nil (Nat.toDigits_ne_nil (b := 10) (n := n))
  have hminus : k.peek ≠ '-' := by
    rw [hcs, List.cons_append] at hk
    rw [Cursor.peek_eq hk]
    rintro rfl
    have hdigit := hdigits '-' (by simp [hcs])
    cases hdigit
  rw [read, if_neg hminus, readUnsigned, htake, hsum]
  split
  next hnil => exact absurd hnil (Nat.toDigits_ne_nil)
  next hzero => exact absurd hzero (toDigits_ne_zero_cons n _ _)
  next => simp [hpeek, whole]

theorem isText_toDigits {n : ℕ} (h : n < Nat.pow 2 64) : IsText (Nat.toDigits 10 n) (.nat n) := by
  refine ⟨?_, fun rest => read_toDigits h⟩
  obtain ⟨c, s, hcs⟩ := List.exists_cons_of_ne_nil (Nat.toDigits_ne_nil (b := 10) (n := n))
  exact ⟨c, s, hcs, .inr (isDigit_toDigits n c (hcs ▸ List.mem_cons_self))⟩

theorem isPrintable_toDigits (n : ℕ) : IsPrintable (Nat.toDigits 10 n) := by
  intro c hc
  have hdigit := isDigit_toDigits n c hc
  simp only [Char.isDigit, Bool.and_eq_true, decide_eq_true_eq] at hdigit
  have hlow : '0'.toNat ≤ c.toNat := hdigit.1
  exact Nat.le_trans (by decide) hlow

end Numeral

end PromptRelay.Json
