import Mathlib.Data.List.TakeWhile
import PromptRelay.Proofs.Text.Digits
import PromptRelay.Proofs.Text.Margin
import PromptRelay.Toml.Printer
import PromptRelay.Toml.Quotation

/-!
Strings of TOML documents are read back as they were written. One that is written on several lines
takes in a margin that is put before them.
-/

namespace PromptRelay.Toml

open Quotation
open Text (hexValue? inset shifted upperHexDigit)

variable {n run : ℕ} {c q : Char} {s t x xs rest : List Char} {lines escapes : Bool}

theorem not_mem_of_isText (h : ∀ d ∈ s, isText d = true) (hc : isText c = false) : c ∉ s := by
  intro hmem
  rw [h c hmem] at hc
  cases hc

theorem isText_of_not_isControl (h : isControl c = false) : isText c = true ∨ c = '\n' := by
  simp only [isControl, isText, Bool.and_eq_false_iff, Bool.or_eq_false_iff, Bool.or_eq_true,
    Bool.and_eq_true, decide_eq_false_iff_not, decide_eq_true_eq, Nat.not_lt, ne_eq, not_not] at h ⊢
  tauto

section Escapes

structure IsEscape (t : List Char) (c : Char) : Prop where
  text : ∀ d ∈ t, isText d = true
  read : ∀ rest, readEscape (t ++ rest) = some (c, rest)

theorem hexValue?_upperHexDigit (h : n < 16) :
    hexValue? (upperHexDigit n) = some n ∧ isText (upperHexDigit n) = true := by
  interval_cases n <;> decide

theorem isEscape_code (hc : c.toNat < 0x100) :
    IsEscape ['u', '0', '0', upperHexDigit (c.toNat / 16), upperHexDigit (c.toNat % 16)] c := by
  obtain ⟨hhigh, htext⟩ := hexValue?_upperHexDigit (n := c.toNat / 16) (by omega)
  obtain ⟨hlow, htext'⟩ := hexValue?_upperHexDigit (n := c.toNat % 16) (by omega)
  have hzero : hexValue? '0' = some 0 := by decide
  have hsum : 16 * (c.toNat / 16) + c.toNat % 16 = c.toNat := by omega
  have hstart : ∀ d ∈ ['u', '0', '0'], isText d = true := List.all_eq_true.mp rfl
  refine ⟨?_, fun rest => ?_⟩
  · simpa [htext, htext'] using hstart
  · have hvalid : c.toNat.isValidChar := c.valid
    simp [readEscape, readCode, valueIn, isHexDigit, hhigh, hlow, hzero, hsum, hvalid]

theorem exists_escapeControl (hc : c.toNat < 0x20 ∨ c.toNat = 0x7F) :
    ∃ t, escapeControl c = '\\' :: t ∧ IsEscape t c := by
  unfold escapeControl
  split_ifs with hb ht hn hf hr
  case neg => exact ⟨_, rfl, isEscape_code (by omega)⟩
  all_goals
    subst c
    exact ⟨_, rfl, List.all_eq_true.mp rfl, fun _ => rfl⟩

/-- How a character is written in a text with escapes. The numbers count the quotes before it and up
to it. -/
inductive Coded (lines : Bool) : ℕ → Char → List Char → ℕ → Prop where
  | escaped {run : ℕ} {c : Char} {t : List Char} (h : IsEscape t c) :
    Coded lines run c ('\\' :: t) 0
  | quote {run : ℕ} (hlines : lines = true) (hrun : run < 2) : Coded lines run '"' ['"'] (run + 1)
  | newline {run : ℕ} (hlines : lines = true) : Coded lines run '\n' ['\n'] 0
  | text {run : ℕ} {c : Char} (hquote : c ≠ '"') (hbackslash : c ≠ '\\') (htext : isText c = true) :
    Coded lines run c [c] 0

theorem exists_coded (lines : Bool) (run : ℕ) (c : Char) :
    ∃ code run', Coded lines run c code run' ∧
      ∀ s, escape lines run (c :: s) = code ++ escape lines run' s := by
  by_cases hquote : c = '"'
  · subst hquote
    by_cases hplain : (lines && run < 2) = true
    · have hboth := hplain
      rw [Bool.and_eq_true, decide_eq_true_eq] at hboth
      exact ⟨_, _, .quote hboth.1 hboth.2, fun s => by rw [escape, if_pos rfl, if_pos hplain]; rfl⟩
    · exact ⟨_, _, .escaped (t := ['"']) ⟨List.all_eq_true.mp rfl, fun _ => rfl⟩,
        fun s => by rw [escape, if_pos rfl, if_neg hplain]; rfl⟩
  by_cases hbackslash : c = '\\'
  · subst hbackslash
    exact ⟨_, _, .escaped (t := ['\\']) ⟨List.all_eq_true.mp rfl, fun _ => rfl⟩, fun s => rfl⟩
  by_cases hnewline : (lines && c = '\n') = true
  · have hboth := hnewline
    rw [Bool.and_eq_true, decide_eq_true_eq] at hboth
    obtain ⟨hlines, rfl⟩ := hboth
    exact ⟨_, _, .newline hlines,
      fun s => by rw [escape, if_neg hquote, if_neg hbackslash, if_pos hnewline]; rfl⟩
  by_cases hcontrol : (c.toNat < 0x20 || c.toNat = 0x7F) = true
  · have heither := hcontrol
    rw [Bool.or_eq_true, decide_eq_true_eq, decide_eq_true_eq] at heither
    obtain ⟨t, ht, hescape⟩ := exists_escapeControl heither
    refine ⟨_, _, .escaped hescape, fun s => ?_⟩
    rw [escape, if_neg hquote, if_neg hbackslash, if_neg hnewline, if_pos hcontrol, ht]
  · refine ⟨_, _, .text hquote hbackslash ?_, fun s => ?_⟩
    · simp only [Bool.or_eq_true, decide_eq_true_eq, not_or, Nat.not_lt] at hcontrol
      simp [isText, hcontrol]
    · rw [escape, if_neg hquote, if_neg hbackslash, if_neg hnewline, if_neg hcontrol]
      rfl

theorem isText_escape (lines : Bool) (run : ℕ) (s : List Char) :
    ∀ c ∈ escape lines run s, isText c = true ∨ c = '\n' ∧ lines = true ∧ '\n' ∈ s := by
  induction s generalizing run with
  | nil => exact nofun
  | cons d s ih =>
    obtain ⟨code, run', hcoded, heq⟩ := exists_coded lines run d
    rw [heq]
    intro c hc
    rcases List.mem_append.mp hc with hcode | hrest
    · cases hcoded with
      | escaped h =>
        rcases List.mem_cons.mp hcode with rfl | hmem
        · exact .inl rfl
        · exact .inl (h.text c hmem)
      | quote =>
        obtain rfl := List.mem_singleton.mp hcode
        exact .inl rfl
      | newline hlines =>
        exact .inr ⟨List.mem_singleton.mp hcode, hlines, List.mem_cons_self⟩
      | text _ _ htext =>
        obtain rfl := List.mem_singleton.mp hcode
        exact .inl htext
    · exact (ih run' c hrest).imp_right fun h => ⟨h.1, h.2.1, List.mem_cons_of_mem d h.2.2⟩

theorem escape_spaces (n : ℕ) (s : List Char) :
    escape true 0 (List.replicate n ' ' ++ s) = List.replicate n ' ' ++ escape true 0 s := by
  induction n with
  | zero => rfl
  | succ n ih =>
    rw [List.replicate_succ, List.cons_append, List.cons_append, ← ih]
    rfl

theorem inset_escape (n run : ℕ) (s : List Char) :
    inset n (escape true run s) = escape true run (inset n s) := by
  induction s generalizing run with
  | nil => rfl
  | cons c s ih =>
    obtain ⟨code, run', hcoded, heq⟩ := exists_coded true run c
    by_cases hc : c = '\n'
    · subst hc
      rw [Text.inset_newline, escape, escape]
      simp only [Char.reduceEq, if_false, Bool.true_and, decide_true, if_true]
      rw [Text.inset_newline, ih, escape_spaces]
    · have hcode : '\n' ∉ code := by
        cases hcoded with
        | escaped h => simpa using not_mem_of_isText h.text rfl
        | quote => decide
        | newline => exact absurd rfl hc
        | text _ _ htext => exact not_mem_of_isText (by simpa using htext) rfl
      rw [heq, Text.inset_append, Text.inset_of_not_mem hcode, ih, Text.inset_cons_of_ne hc, heq]

end Escapes

section Runs

theorem longestRun_le_longestRun (q : Char) (s : List Char) {run run' : ℕ} (h : run ≤ run') :
    longestRun q run s ≤ longestRun q run' s := by
  induction s generalizing run run' with
  | nil => exact h
  | cons c s ih =>
    rw [longestRun, longestRun]
    split_ifs
    · exact ih (Nat.succ_le_succ h)
    · exact max_le_max h (Nat.le_refl _)

theorem lead_le_longestRun (q : Char) (run : ℕ) (s : List Char) :
    run + (s.takeWhile (· = q)).length ≤ longestRun q run s := by
  induction s generalizing run with
  | nil => exact Nat.le_refl run
  | cons c s ih =>
    rw [longestRun, List.takeWhile_cons]
    by_cases hc : c = q
    · have hle := ih (run + 1)
      simp only [hc, decide_true, if_true, List.length_cons]
      omega
    · simp [hc]

theorem le_longestRun (q : Char) (run : ℕ) (s : List Char) : run ≤ longestRun q run s :=
  (Nat.le_add_right _ _).trans (lead_le_longestRun q run s)

theorem not_mem_of_longestRun (h : longestRun q 0 s = 0) : q ∉ s := by
  induction s with
  | nil => exact List.not_mem_nil
  | cons c s ih =>
    rw [longestRun] at h
    split_ifs at h with hc
    · have hle := le_longestRun q (0 + 1) s
      omega
    · have hle := Nat.le_max_right 0 (longestRun q 0 s)
      rw [h] at hle
      rw [List.mem_cons, not_or]
      exact ⟨Ne.symm hc, ih (Nat.le_zero.mp hle)⟩

theorem longestRun_spaces (hq : q ≠ ' ') (n : ℕ) (s : List Char) :
    longestRun q 0 (List.replicate n ' ' ++ s) = longestRun q 0 s := by
  induction n with
  | zero => rfl
  | succ n ih =>
    rw [List.replicate_succ, List.cons_append, longestRun, if_neg (Ne.symm hq), ih, Nat.zero_max]

theorem longestRun_inset (hspace : q ≠ ' ') (hline : q ≠ '\n') (n run : ℕ) (s : List Char) :
    longestRun q run (inset n s) = longestRun q run s := by
  induction s generalizing run with
  | nil => rfl
  | cons c s ih =>
    by_cases hc : c = '\n'
    · subst hc
      rw [Text.inset_newline, longestRun, longestRun, if_neg (Ne.symm hline),
        if_neg (Ne.symm hline), longestRun_spaces hspace, ih]
    · rw [Text.inset_cons_of_ne hc, longestRun, longestRun, ih, ih]

theorem longestRun_shifted (hspace : q ≠ ' ') (hline : q ≠ '\n') (n : ℕ) (s : List Char) :
    longestRun q 0 (shifted n s) = longestRun q 0 s := by
  unfold shifted
  split_ifs
  · rw [longestRun_spaces hspace, longestRun_inset hspace hline]
  · rfl

theorem lead_escape_le (hrun : run ≤ 2) (s : List Char) :
    run + ((escape true run s).takeWhile (· = '"')).length ≤ 2 := by
  induction s generalizing run with
  | nil => exact hrun
  | cons c s ih =>
    obtain ⟨code, run', hcoded, heq⟩ := exists_coded true run c
    rw [heq]
    cases hcoded with
    | quote _ hlt =>
      have hle : run + 1 + _ ≤ 2 := ih (Nat.succ_le_of_lt hlt)
      simp only [List.singleton_append, List.takeWhile_cons, decide_true, if_true,
        List.length_cons]
      omega
    | text hquote => simpa [hquote] using hrun
    | escaped | newline => simpa using hrun

theorem escape_eq_self (h : ∀ c ∈ escape true run s, c = '"') : escape true run s = s := by
  induction s generalizing run with
  | nil => rfl
  | cons c s ih =>
    obtain ⟨code, run', hcoded, heq⟩ := exists_coded true run c
    rw [heq, List.forall_mem_append] at h
    rw [heq]
    cases hcoded with
    | escaped => exact absurd (h.1 _ List.mem_cons_self) (by decide)
    | newline => exact absurd (h.1 _ List.mem_cons_self) (by decide)
    | quote => rw [ih h.2, List.singleton_append]
    | text => rw [ih h.2, List.singleton_append]

theorem closing?_of_all (hx : ∀ c ∈ x, c = q) (hlength : x.length ≤ 2)
    (hrest : rest.head? ≠ some q) :
    closing? q (x ++ q :: q :: q :: rest) = some (x, rest) := by
  obtain ⟨k, hk⟩ : ∃ k, x.length = k := ⟨_, rfl⟩
  obtain rfl := List.eq_replicate_iff.mpr ⟨hk, hx⟩
  have hsplit : List.replicate k q ++ q :: q :: q :: rest = List.replicate (k + 3) q ++ rest := by
    rw [List.replicate_add, List.append_assoc]
    rfl
  have hstop : ∀ c ∈ rest.head?, decide (c = q) = false := by
    rintro c hc
    exact decide_eq_false fun heq => hrest (heq ▸ hc)
  have hrun : ((List.replicate (k + 3) q ++ rest).takeWhile (· = q)).length = k + 3 := by
    rw [takeWhile_run (by simp) hstop, List.length_replicate]
  rw [List.length_replicate] at hlength
  rw [hsplit, closing?]
  simp only [hrun]
  rw [if_neg (by omega), Nat.add_sub_cancel, Nat.min_eq_left hlength, Nat.min_eq_left (by omega),
    List.drop_left' List.length_replicate]

theorem closing?_of_lead (hlead : (x.takeWhile (· = q)).length ≤ 2) (hx : ¬∀ c ∈ x, c = q)
    (t : List Char) : closing? q (x ++ t) = none := by
  have hne : (x.takeWhile (· = q)).length ≠ x.length := by
    intro hlength
    have hself := List.takeWhile_eq_self_iff.mp ((List.takeWhile_prefix _).eq_of_length hlength)
    exact hx (by simpa using hself)
  rw [closing?]
  simp only [List.takeWhile_append, if_neg hne]
  exact if_pos (Nat.lt_succ_of_le hlead)

end Runs

section Lines

def Reads (q : Char) (escapes : Bool) (s xs rest : List Char) : Prop :=
  ∀ bound, s.length < bound → linesUpTo q escapes bound s = some (xs, rest)

theorem continued?_of_readEscape {result : Char × List Char} (h : readEscape s = some result) :
    continued? s = none := by
  unfold readEscape at h
  split at h
  case h_10 => cases h
  all_goals rfl

namespace Reads

theorem closed (h : closing? q (q :: s) = some (xs, rest)) :
    Reads q escapes (q :: s) xs rest := by
  rintro (_ | bound) hbound
  · cases hbound
  · rw [linesUpTo, if_pos rfl, h]

theorem quote (hopen : closing? q (q :: s) = none) (h : Reads q escapes s xs rest) :
    Reads q escapes (q :: s) (q :: xs) rest := by
  rintro (_ | bound) hbound
  · cases hbound
  · rw [linesUpTo, if_pos rfl, hopen]
    simp [h bound (Nat.lt_of_succ_lt_succ hbound)]

theorem newline (hq : q ≠ '\n') (h : Reads q escapes s xs rest) :
    Reads q escapes ('\n' :: s) ('\n' :: xs) rest := by
  rintro (_ | bound) hbound
  · cases hbound
  · rw [linesUpTo, if_neg (Ne.symm hq), if_neg (by simp)]
    simp [lineEnd?, h bound (Nat.lt_of_succ_lt_succ hbound)]

theorem text (hq : c ≠ q) (hplain : escapes = true → c ≠ '\\') (hc : isText c = true)
    (h : Reads q escapes s xs rest) : Reads q escapes (c :: s) (c :: xs) rest := by
  have hend : lineEnd? (c :: s) = none := by
    unfold lineEnd?
    split
    next heq =>
      obtain rfl := (List.cons.inj heq).1
      cases hc
    next heq =>
      obtain rfl := (List.cons.inj heq).1
      cases hc
    next => rfl
  rintro (_ | bound) hbound
  · cases hbound
  · rw [linesUpTo, if_neg hq, if_neg (by simpa using hplain), hend]
    simp [hc, h bound (Nat.lt_of_succ_lt_succ hbound)]

theorem escaped (ht : IsEscape t c) (h : Reads '"' true s xs rest) :
    Reads '"' true ('\\' :: (t ++ s)) (c :: xs) rest := by
  rintro (_ | bound) hbound
  · cases hbound
  · have hlength : s.length < bound := by
      rw [List.length_cons, List.length_append] at hbound
      omega
    rw [linesUpTo, if_neg (by decide), if_pos (by decide), continued?_of_readEscape (ht.read s),
      ht.read s]
    simp [h bound hlength]

end Reads

theorem reads_quote (hrest : rest.head? ≠ some q)
    (hlead : 1 + (x.takeWhile (· = q)).length ≤ 2) (hx : (∀ c ∈ x, c = q) → x = s)
    (h : Reads q escapes (x ++ q :: q :: q :: rest) s rest) :
    Reads q escapes (q :: (x ++ q :: q :: q :: rest)) (q :: s) rest := by
  by_cases hall : ∀ c ∈ x, c = q
  · have hquotes : ∀ c ∈ q :: x, c = q := List.forall_mem_cons.mpr ⟨rfl, hall⟩
    have hlength : (q :: x).length ≤ 2 := by
      rw [List.takeWhile_eq_self_iff.mpr (by simpa using hall)] at hlead
      rw [List.length_cons]
      omega
    have hclosing := closing?_of_all hquotes hlength hrest
    rw [hx hall] at hclosing ⊢
    exact .closed hclosing
  · have hquotes : ¬∀ c ∈ q :: x, c = q := fun h => hall (List.forall_mem_cons.mp h).2
    have hopen : ((q :: x).takeWhile (· = q)).length ≤ 2 := by
      simp only [List.takeWhile_cons, decide_true, if_true, List.length_cons]
      omega
    exact .quote (closing?_of_lead hopen hquotes _) h

theorem reads_escape (hrest : rest.head? ≠ some '"') (hrun : run ≤ 2) (s : List Char) :
    Reads '"' true (escape true run s ++ '"' :: '"' :: '"' :: rest) s rest := by
  induction s generalizing run with
  | nil => exact .closed (closing?_of_all (x := []) (List.forall_mem_nil _) (Nat.zero_le 2) hrest)
  | cons c s ih =>
    obtain ⟨code, run', hcoded, heq⟩ := exists_coded true run c
    rw [heq, List.append_assoc]
    cases hcoded with
    | escaped h => exact .escaped h (ih (Nat.zero_le 2))
    | quote _ hlt =>
      have hlead : run + 1 + ((escape true (run + 1) s).takeWhile (· = '"')).length ≤ 2 :=
        lead_escape_le hlt s
      exact reads_quote hrest (by omega) escape_eq_self (ih hlt)
    | newline => exact .newline (by decide) (ih (Nat.zero_le 2))
    | text hquote hbackslash htext =>
      exact .text hquote (fun _ => hbackslash) htext (ih (Nat.zero_le 2))

theorem reads_plain (hq : q ≠ '\n') (hrest : rest.head? ≠ some q)
    (htext : ∀ c ∈ s, isText c = true ∨ c = '\n') (hrun : longestRun q 0 s ≤ 2) :
    Reads q false (s ++ q :: q :: q :: rest) s rest := by
  induction s with
  | nil => exact .closed (closing?_of_all (x := []) (List.forall_mem_nil _) (Nat.zero_le 2) hrest)
  | cons c s ih =>
    rw [List.forall_mem_cons] at htext
    rw [longestRun] at hrun
    split_ifs at hrun with hc
    · subst hc
      have hlead := lead_le_longestRun c (0 + 1) s
      have hless := longestRun_le_longestRun c s (Nat.zero_le (0 + 1))
      exact reads_quote hrest (by omega) (fun _ => rfl) (ih htext.2 (by omega))
    · have hread := ih htext.2 (by omega)
      rcases htext.1 with hc' | rfl
      · exact .text hc (by simp) hc' hread
      · exact .newline hq hread

theorem length_dropFirstLineEnd_le (s : List Char) : (dropFirstLineEnd s).length ≤ s.length := by
  unfold dropFirstLineEnd lineEnd?
  split
  next => exact Nat.le_succ _
  next => exact Nat.le_add_right _ 2
  next => exact Nat.le_refl _

theorem onLines_eq (h : Reads q escapes (dropFirstLineEnd s) xs rest) :
    onLines q escapes s = some (xs, rest) :=
  h _ (Nat.lt_succ_of_le (length_dropFirstLineEnd_le s))

theorem dropFirstLineEnd_of_isText (h : ∀ c ∈ s.head?, isText c = true) :
    dropFirstLineEnd s = s := by
  unfold dropFirstLineEnd lineEnd?
  split
  next => cases h '\n' rfl
  next => cases h '\r' rfl
  next => rfl

end Lines

section OneLine

theorem basicUpTo_escape (run : ℕ) (s rest : List Char) {bound : ℕ}
    (hbound : (escape false run s ++ '"' :: rest).length < bound) :
    basicUpTo bound (escape false run s ++ '"' :: rest) = some (s, rest) := by
  induction s generalizing run bound with
  | nil =>
    obtain ⟨bound, rfl⟩ := Nat.exists_eq_add_one_of_ne_zero (Nat.ne_zero_of_lt hbound)
    rfl
  | cons c s ih =>
    obtain ⟨bound, rfl⟩ := Nat.exists_eq_add_one_of_ne_zero (Nat.ne_zero_of_lt hbound)
    obtain ⟨code, run', hcoded, heq⟩ := exists_coded false run c
    rw [heq, List.append_assoc] at hbound ⊢
    rw [List.length_append] at hbound
    cases hcoded with
    | escaped h =>
      rw [List.length_cons] at hbound
      rw [List.cons_append, basicUpTo, if_neg (by decide), if_pos rfl, h.read]
      have hrest : (escape false 0 s ++ '"' :: rest).length < bound := by omega
      simp [ih 0 hrest]
    | quote hlines => cases hlines
    | newline hlines => cases hlines
    | text hquote hbackslash htext =>
      rw [List.length_singleton] at hbound
      rw [List.singleton_append, basicUpTo, if_neg hquote, if_neg hbackslash, if_pos htext]
      have hrest : (escape false 0 s ++ '"' :: rest).length < bound := by omega
      simp [ih 0 hrest]

theorem literal_eq (hs : ∀ c ∈ s, isText c = true ∧ c ≠ '\'') (rest : List Char) :
    literal (s ++ '\'' :: rest) = some (s, rest) := by
  induction s with
  | nil => rfl
  | cons c s ih =>
    rw [List.forall_mem_cons] at hs
    rw [List.cons_append, literal, if_neg hs.1.2, if_pos hs.1.1, ih hs.2]
    rfl

end OneLine

theorem quotesFor_spec (s : List Char) :
    match quotesFor s with
    | .basic => '\n' ∉ s
    | .literal => ∀ c ∈ s, isText c = true ∧ c ≠ '\''
    | .basicLines => True
    | .literalLines => (∀ c ∈ s, isText c = true ∨ c = '\n') ∧ longestRun '\'' 0 s ≤ 2 := by
  have htext (h : (content s).hasControl = false) : ∀ c ∈ s, isText c = true ∨ c = '\n' := by
    intro c hc
    have hcontrol : s.any isControl = false := h
    rw [List.any_eq_false] at hcontrol
    exact isText_of_not_isControl (Bool.not_eq_true _ ▸ hcontrol c hc)
  have hend (h : (content s).hasLineEnd = false) : '\n' ∉ s := by
    have hcontains : s.contains '\n' = false := h
    simpa using hcontains
  unfold quotesFor
  dsimp only
  split_ifs with hbasic hliteral hlines hliterals hlineEnd
  · simp only [Bool.and_eq_true, Bool.not_eq_true'] at hbasic
    exact hend hbasic.2
  · simp only [Bool.and_eq_true, Bool.not_eq_true', decide_eq_true_eq] at hliteral
    obtain ⟨⟨hcontrol, happs⟩, hnone⟩ := hliteral
    intro c hc
    refine ⟨(htext hcontrol c hc).resolve_right ?_, ?_⟩
    · rintro rfl
      exact hend hnone hc
    · rintro rfl
      exact not_mem_of_longestRun happs hc
  · trivial
  · simp only [Bool.and_eq_true, Bool.not_eq_true', decide_eq_true_eq] at hliterals
    exact ⟨htext hliterals.1, hliterals.2⟩
  · trivial
  · exact hend (Bool.not_eq_true _ ▸ hlineEnd)

theorem isText_or_newline_of_all {s : List Char} (h : s.all isText = true) :
    ∀ c ∈ s, isText c = true ∨ c = '\n' :=
  fun c hc => .inl (List.all_eq_true.mp h c hc)

theorem isText_stringText (s : List Char) :
    ∀ c ∈ stringText s, isText c = true ∨ c = '\n' := by
  have hgap : ∀ c ∈ (if s.contains '\n' then ['\n'] else []), isText c = true ∨ c = '\n' := by
    split_ifs <;> simp
  have hescape (lines : Bool) : ∀ c ∈ escape lines 0 s, isText c = true ∨ c = '\n' :=
    fun c hc => (isText_escape lines 0 s c hc).imp_right And.left
  have hspec := quotesFor_spec s
  unfold stringText
  cases hquotes : quotesFor s <;> simp only [hquotes, List.forall_mem_append] at hspec ⊢
  · exact ⟨⟨isText_or_newline_of_all rfl, hescape false⟩, isText_or_newline_of_all rfl⟩
  · exact ⟨⟨isText_or_newline_of_all rfl, fun c hc => .inl (hspec c hc).1⟩,
      isText_or_newline_of_all rfl⟩
  · exact ⟨⟨⟨isText_or_newline_of_all rfl, hgap⟩, hescape true⟩, isText_or_newline_of_all rfl⟩
  · exact ⟨⟨⟨isText_or_newline_of_all rfl, hgap⟩, hspec.1⟩, isText_or_newline_of_all rfl⟩

theorem dropFirstLineEnd_gap {body tail : List Char}
    (hbody : ∀ c ∈ body, isText c = true ∨ c = '\n' ∧ '\n' ∈ s)
    (htail : ∀ c ∈ tail.head?, isText c = true) :
    dropFirstLineEnd (inset n ((if s.contains '\n' then ['\n'] else []) ++ body) ++ tail) =
      (if '\n' ∈ s then List.replicate n ' ' ++ inset n body else body) ++ tail := by
  by_cases hs : '\n' ∈ s
  · rw [if_pos hs, if_pos (by simpa using hs), List.singleton_append, Text.inset_newline]
    rfl
  · have htext : ∀ c ∈ body, isText c = true := fun c hc =>
      (hbody c hc).resolve_right fun h => hs h.2
    rw [if_neg hs, if_neg (by simpa using hs), List.nil_append,
      Text.inset_of_not_mem (not_mem_of_isText htext rfl)]
    refine dropFirstLineEnd_of_isText ?_
    cases body with
    | nil => exact htail
    | cons c body =>
      rintro d ⟨⟩
      exact htext c List.mem_cons_self

theorem onLines_gap (hq : isText q = true) {body : List Char}
    (hbody : ∀ c ∈ body, isText c = true ∨ c = '\n' ∧ '\n' ∈ s)
    (h : Reads q escapes ((if '\n' ∈ s then List.replicate n ' ' ++ inset n body else body)
      ++ q :: q :: q :: rest) xs rest) :
    onLines q escapes (inset n ((if s.contains '\n' then ['\n'] else []) ++ body)
      ++ q :: q :: q :: rest) = some (xs, rest) := by
  refine onLines_eq ?_
  rw [dropFirstLineEnd_gap hbody]
  · exact h
  · rintro c ⟨⟩
    exact hq

theorem read_basic (h : ∀ t, s ≠ '"' :: '"' :: t) : Quotation.read ('"' :: s) = basic s := by
  unfold Quotation.read
  split
  next heq => exact absurd (List.cons.inj heq).2 (h _)
  next heq => cases (List.cons.inj heq).1
  next heq => rw [(List.cons.inj heq).2]
  next heq => cases (List.cons.inj heq).1
  next hne _ => exact absurd rfl (hne s)

theorem read_literal (h : ∀ t, s ≠ '\'' :: '\'' :: t) : Quotation.read ('\'' :: s) = literal s := by
  unfold Quotation.read
  split
  next heq => cases (List.cons.inj heq).1
  next heq => exact absurd (List.cons.inj heq).2 (h _)
  next heq => cases (List.cons.inj heq).1
  next heq => rw [(List.cons.inj heq).2]
  next hne => exact absurd rfl (hne s)

theorem read_inset_stringText (n : ℕ) (s : List Char)
    (hrest : ∀ c ∈ rest.head?, c ≠ '"' ∧ c ≠ '\'') :
    Quotation.read (inset n (stringText s) ++ rest) = some (shifted n s, rest) := by
  have hspec := quotesFor_spec s
  unfold stringText
  cases hquotes : quotesFor s <;> simp only [hquotes] at hspec ⊢
  case basic =>
    have hplain : ∀ c ∈ escape false 0 s, isText c = true := fun c hc =>
      (isText_escape false 0 s c hc).resolve_right nofun
    have hnewline : '\n' ∉ ['"'] ++ escape false 0 s ++ ['"'] := by
      simpa using not_mem_of_isText hplain rfl
    have hopen : ∀ t, escape false 0 s ++ '"' :: rest ≠ '"' :: '"' :: t := by
      cases s with
      | nil =>
        rintro t heq
        exact (hrest '"' (by rw [(List.cons.inj heq).2]; rfl)).1 rfl
      | cons c s =>
        obtain ⟨code, run', hcoded, heq⟩ := exists_coded false 0 c
        rw [heq]
        cases hcoded with
        | text hquote => exact fun t h => hquote (List.cons.inj h).1
        | quote hlines => cases hlines
        | _ => simp
    have hbasic : basic (escape false 0 s ++ '"' :: rest) = some (s, rest) :=
      basicUpTo_escape 0 s rest (Nat.lt_succ_self _)
    rw [Text.inset_of_not_mem hnewline, Text.shifted_of_not_mem hspec]
    simpa [read_basic hopen] using hbasic
  case literal =>
    have hnewline : '\n' ∉ s := not_mem_of_isText (fun c hc => (hspec c hc).1) rfl
    have hopen : ∀ t, s ++ '\'' :: rest ≠ '\'' :: '\'' :: t := by
      cases s with
      | nil =>
        rintro t heq
        exact (hrest '\'' (by rw [(List.cons.inj heq).2]; rfl)).2 rfl
      | cons c s => exact fun t h => (hspec c List.mem_cons_self).2 (List.cons.inj h).1
    rw [Text.inset_of_not_mem (by simpa using hnewline), Text.shifted_of_not_mem hnewline]
    simpa [read_literal hopen] using literal_eq hspec rest
  case basicLines =>
    have hbody : ∀ c ∈ escape true 0 s, isText c = true ∨ c = '\n' ∧ '\n' ∈ s := fun c hc =>
      (isText_escape true 0 s c hc).imp_right fun h => ⟨h.1, h.2.2⟩
    have hshifted : (if '\n' ∈ s then List.replicate n ' ' ++ inset n (escape true 0 s)
        else escape true 0 s) = escape true 0 (shifted n s) := by
      rw [shifted, inset_escape]
      split_ifs
      · exact (escape_spaces n _).symm
      · rfl
    have hreads := reads_escape (fun h => (hrest '"' h).1 rfl) (Nat.zero_le 2) (shifted n s)
    rw [← hshifted] at hreads
    simpa [Text.inset_append, Quotation.read, inset] using onLines_gap rfl hbody hreads
  case literalLines =>
    have hbody : ∀ c ∈ s, isText c = true ∨ c = '\n' ∧ '\n' ∈ s := fun c hc =>
      (hspec.1 c hc).imp_right fun h => ⟨h, h ▸ hc⟩
    have htext : ∀ c ∈ shifted n s, isText c = true ∨ c = '\n' := by
      intro c hc
      rcases Text.mem_of_mem_shifted hc with rfl | hmem
      · exact .inl rfl
      · exact hspec.1 c hmem
    have hrun : longestRun '\'' 0 (shifted n s) ≤ 2 := by
      rw [longestRun_shifted (by decide) (by decide)]
      exact hspec.2
    have hreads := reads_plain (by decide) (fun h => (hrest '\'' h).2 rfl) htext hrun
    simpa [Text.inset_append, Quotation.read, inset] using onLines_gap rfl hbody hreads

end PromptRelay.Toml
