import PromptRelay.Proofs.Binary.Spelling
import PromptRelay.Proofs.Toml.Strings
import PromptRelay.Toml.Reader
import PromptRelay.Unicode.WhiteSpace

namespace PromptRelay.Toml

open Quotation (isText)
open Binary (Spelling signChars readSign_signChars)
open Binary.Spelling (fractionChars exponentChars)
open Text (inset readSign shifted)

variable {n : ℕ} {c : Char} {digits s t rest text : List Char} {negative : Bool} {v : Toml}

def AtLineEnd (s : List Char) : Prop :=
  ∀ c ∈ s.head?, c = '\n'

def EndsDigits (s : List Char) : Prop :=
  ∀ c ∈ s.head?, c.isDigit = false ∧ c ≠ '_'

section Digits

theorem more_eq (hdigits : ∀ d ∈ digits, d.isDigit = true) (hrest : EndsDigits rest) :
    digitRun.more Char.isDigit c (digits ++ rest) = (c :: digits, rest) := by
  induction digits generalizing c with
  | nil =>
    rw [List.nil_append]
    unfold digitRun.more
    split
    next => exact absurd rfl (hrest '_' rfl).2
    next d s _ => simp [(hrest d rfl).1]
    next => rfl
  | cons d digits ih =>
    rw [List.forall_mem_cons] at hdigits
    rw [List.cons_append]
    unfold digitRun.more
    split
    next heq =>
      obtain rfl := (List.cons.inj heq).1
      cases hdigits.1
    next heq =>
      obtain ⟨rfl, rfl⟩ := List.cons.inj heq
      simp [hdigits.1, ih hdigits.2]
    next heq => cases heq

theorem digitRun_eq (hne : digits ≠ []) (hdigits : ∀ d ∈ digits, d.isDigit = true)
    (hrest : EndsDigits rest) : digitRun Char.isDigit (digits ++ rest) = some (digits, rest) := by
  obtain ⟨c, digits, rfl⟩ := List.exists_cons_of_ne_nil hne
  rw [List.forall_mem_cons] at hdigits
  rw [List.cons_append, digitRun, if_pos hdigits.1, more_eq hdigits.2 hrest]

theorem readDigits_eq (hne : digits ≠ []) (hdigits : ∀ d ∈ digits, d.isDigit = true)
    (hlead : ∀ d t, digits ≠ '0' :: d :: t) (hrest : EndsDigits rest) :
    readDigits (digits ++ rest) = some (digits, rest) := by
  unfold readDigits
  split
  next heq =>
    match digits, hne with
    | [c], _ =>
      obtain ⟨rfl, rfl⟩ := List.cons.inj heq
      rfl
    | c :: d :: t, _ =>
      rw [(List.cons.inj heq).1] at hlead
      exact absurd rfl (hlead d t)
  next => exact digitRun_eq hne hdigits hrest

theorem valueIn_ten (hdigits : ∀ d ∈ digits, d.isDigit = true) :
    valueIn 10 digits = Nat.ofDigitChars 10 digits 0 := by
  refine List.foldl_ext _ _ 0 fun n d hd => ?_
  rw [Text.hexValue?, if_pos (hdigits d hd)]
  rfl

theorem readFraction_eq (hdigits : ∀ d ∈ digits, d.isDigit = true) (hrest : EndsDigits rest)
    (hpoint : rest.head? ≠ some '.') :
    readFraction (fractionChars digits ++ rest) = some (digits, rest) := by
  cases digits with
  | nil =>
    rw [fractionChars, List.nil_append]
    unfold readFraction
    split
    next => exact absurd rfl hpoint
    next => rfl
  | cons d digits => exact digitRun_eq (List.cons_ne_nil d digits) hdigits hrest

theorem AtLineEnd.endsDigits (h : AtLineEnd rest) : EndsDigits rest := by
  intro c hc
  rw [h c hc]
  decide

theorem readExponent_eq (e : Option ℤ) (hrest : AtLineEnd rest) :
    readExponent (exponentChars e ++ rest) = some (e, rest) := by
  cases e with
  | none =>
    cases rest with
    | nil => rfl
    | cons c rest =>
      obtain rfl := hrest c rfl
      rfl
  | some e =>
    have hdigits := isDigit_toDigits e.natAbs
    have hrun := digitRun_eq (Nat.toDigits_ne_nil (b := 10)) hdigits hrest.endsDigits
    have hvalue : valueIn 10 (Nat.toDigits 10 e.natAbs) = e.natAbs := by
      rw [valueIn_ten hdigits, Nat.ofDigitChars_ten_toDigits]
    have hsign (s : List Char) :
        readSign ((if e < 0 then '-' else '+') :: s) = (decide (e < 0), s) := by
      split_ifs with hneg <;> simp [readSign, hneg]
    have hsum : (if e < 0 then -(e.natAbs : ℤ) else e.natAbs) = e := by
      split_ifs <;> omega
    rw [exponentChars, List.cons_append, List.cons_append, readExponent, if_pos (.inl rfl), hsign]
    simp only [hrun, hvalue, decide_eq_true_eq, Option.bind_eq_bind, Option.bind_some, hsum]
    rfl

end Digits

section Numbers

theorem ne_of_isDigit {d : Char} (hc : c.isDigit = true) (hd : d.isDigit = false) : c ≠ d := by
  rintro rfl
  rw [hc] at hd
  cases hd

theorem head?_dropWhile_of_getElem? {k : ℕ} (hdigits : (s.take k).all Char.isDigit = true)
    (hc : s[k]? = some c) (hparts : c.isDigit = false) :
    (s.dropWhile Char.isDigit).head? = some c := by
  rw [List.all_eq_true] at hdigits
  have hrest : (s.drop k).head? = some c := by rw [List.head?_drop, hc]
  obtain ⟨t, ht⟩ := List.head?_eq_some_iff.mp hrest
  rw [← List.take_append_drop k s, List.dropWhile_append_of_pos hdigits, ht,
    List.dropWhile_cons_of_neg (by simp [hparts])]
  rfl

theorem not_starts (h : ∀ c ∈ (s.dropWhile Char.isDigit).head?, c ≠ '-' ∧ c ≠ ':') :
    (startsDate s || startsTime s) = false := by
  rw [Bool.or_eq_false_iff]
  constructor
  · rw [← Bool.not_eq_true, startsDate, Bool.and_eq_true, decide_eq_true_eq]
    rintro ⟨hdigits, hdash⟩
    exact (h '-' (head?_dropWhile_of_getElem? hdigits hdash rfl)).1 rfl
  · rw [← Bool.not_eq_true, startsTime, Bool.and_eq_true, decide_eq_true_eq]
    rintro ⟨hdigits, hcolon⟩
    exact (h ':' (head?_dropWhile_of_getElem? hdigits hcolon rfl)).2 rfl

theorem readSpecial_eq_none (negative : Bool) (hc : c.isDigit = true) (s : List Char) :
    readSpecial (signChars negative ++ c :: s) = none := by
  rw [readSpecial, readSign_signChars negative hc]
  dsimp only
  split
  next heq => exact absurd (List.cons.inj heq).1 (ne_of_isDigit hc rfl)
  next heq => exact absurd (List.cons.inj heq).1 (ne_of_isDigit hc rfl)
  next => rfl

theorem readValue_number (negative : Bool) (hc : c.isDigit = true)
    (hend : ∀ d ∈ ((c :: s).dropWhile Char.isDigit).head?, d ≠ '-' ∧ d ≠ ':') (bound depth : ℕ) :
    readValue (bound + 1) depth (signChars negative ++ c :: s) =
      (readDecimal (signChars negative ++ c :: s)).or (readInt (signChars negative ++ c :: s)) := by
  have hnumber : readNumber (signChars negative ++ c :: s) =
      (readDecimal (signChars negative ++ c :: s)).or
        (readInt (signChars negative ++ c :: s)) := by
    have hstarts : (startsDate (signChars negative ++ c :: s) ||
        startsTime (signChars negative ++ c :: s)) = false := by
      cases negative with
      | true => rfl
      | false => exact not_starts hend
    rw [readNumber, hstarts, if_neg Bool.false_ne_true, readSpecial_eq_none negative hc,
      Option.none_or]
  rw [← hnumber]
  cases negative with
  | true => rfl
  | false =>
    rw [signChars, if_neg Bool.false_ne_true, List.nil_append, readValue]
    have hne {d : Char} (hd : d.isDigit = false) := ne_of_isDigit hc hd
    simp [hc, hne]

theorem head?_exponent (e : Option ℤ) (hrest : AtLineEnd rest) :
    ∀ c ∈ (exponentChars e ++ rest).head?, c = 'e' ∨ c = '\n' := by
  cases e with
  | some e =>
    rintro c ⟨⟩
    exact .inl rfl
  | none => exact fun c hc => .inr (hrest c hc)

theorem head?_fraction (digits : List Char) (e : Option ℤ) (hrest : AtLineEnd rest) :
    ∀ c ∈ (fractionChars digits ++ (exponentChars e ++ rest)).head?,
      c = '.' ∨ c = 'e' ∨ c = '\n' := by
  cases digits with
  | cons d digits =>
    rintro c ⟨⟩
    exact .inl rfl
  | nil => exact fun c hc => .inr (head?_exponent e hrest c hc)

theorem endsDigits_of_head? (h : ∀ c ∈ s.head?, c = '.' ∨ c = 'e' ∨ c = '\n') :
    EndsDigits s := by
  intro c hc
  rcases h c hc with rfl | rfl | rfl <;> decide

theorem chars_append (x : Spelling) (rest : List Char) : x.chars ++ rest =
    x.whole ++ (fractionChars x.fraction ++ (exponentChars x.exponent ++ rest)) := by
  rw [Spelling.chars, List.append_assoc, List.append_assoc]

theorem readDecimal_chars (negative : Bool) {x : Spelling} (hx : x.Regular)
    (hrest : AtLineEnd rest) (hround : x.decimal.round .double negative ≠ .infinite false) :
    readDecimal (signChars negative ++ (x.chars ++ rest)) =
      some (.float (x.decimal.round .double negative), rest) := by
  obtain ⟨c, t, hct, hc⟩ := Binary.exists_chars_eq hx
  have hsign := readSign_signChars negative hc (t ++ rest)
  rw [← List.cons_append, ← hct] at hsign
  have hends := head?_exponent x.exponent hrest
  have hpoint : (exponentChars x.exponent ++ rest).head? ≠ some '.' := fun hc =>
    absurd (hends '.' hc) (by decide)
  have hwhole := readDigits_eq hx.whole_ne hx.whole_digits hx.lead
    (endsDigits_of_head? (head?_fraction x.fraction x.exponent hrest))
  have hfraction := readFraction_eq hx.fraction_digits
    (endsDigits_of_head? fun c hc => .inr (hends c hc)) hpoint
  have hexponent := readExponent_eq x.exponent hrest
  have hparted : (x.fraction.isEmpty && x.exponent.isNone) = false := by
    rcases hx.parted with h | h
    · simp [h]
    · simp [Option.isNone_eq_false_iff, Option.isSome_iff_ne_none, h]
  rw [readDecimal, hsign, chars_append]
  simp only [hwhole, hfraction, hexponent, Option.bind_eq_bind, Option.bind_some, hparted]
  exact if_neg hround

theorem AtLineEnd.readFraction_eq (h : AtLineEnd rest) : readFraction rest = some ([], rest) :=
  Toml.readFraction_eq (List.forall_mem_nil _) h.endsDigits fun hc => absurd (h '.' hc) (by decide)

theorem readDecimal_digits (negative : Bool) (hne : digits ≠ [])
    (hdigits : ∀ d ∈ digits, d.isDigit = true) (hlead : ∀ d t, digits ≠ '0' :: d :: t)
    (hrest : AtLineEnd rest) : readDecimal (signChars negative ++ (digits ++ rest)) = none := by
  have hwhole := readDigits_eq hne hdigits hlead hrest.endsDigits
  obtain ⟨c, t, rfl⟩ := List.exists_cons_of_ne_nil hne
  rw [List.forall_mem_cons] at hdigits
  have hexponent := readExponent_eq none hrest
  rw [exponentChars, List.nil_append] at hexponent
  rw [readDecimal, List.cons_append, readSign_signChars negative hdigits.1, ← List.cons_append]
  simp only [hwhole, hrest.readFraction_eq, hexponent, Option.bind_eq_bind, Option.bind_some]
  rfl

theorem readInt_digits (negative : Bool) (hne : digits ≠ [])
    (hdigits : ∀ d ∈ digits, d.isDigit = true) (hlead : ∀ d t, digits ≠ '0' :: d :: t)
    (hrest : AtLineEnd rest) : readInt (signChars negative ++ (digits ++ rest)) =
      (inRange (if negative then -(Nat.ofDigitChars 10 digits 0 : ℤ)
        else Nat.ofDigitChars 10 digits 0)).map (·, rest) := by
  have hwhole := readDigits_eq hne hdigits hlead hrest.endsDigits
  have hvalue := valueIn_ten hdigits
  have hbase : ∀ d t, signChars negative ++ (digits ++ rest) = '0' :: d :: t → d = '\n' := by
    intro d t heq
    cases negative with
    | true => cases (List.cons.inj heq).1
    | false =>
      match digits, hne with
      | [c], _ =>
        have hnext : rest = d :: t := (List.cons.inj heq).2
        exact hrest d (by rw [hnext]; rfl)
      | c :: c' :: digits, _ => exact absurd (by rw [(List.cons.inj heq).1]) (hlead c' digits)
  obtain ⟨c, t, rfl⟩ := List.exists_cons_of_ne_nil hne
  rw [List.forall_mem_cons] at hdigits
  have hsign := readSign_signChars negative hdigits.1 (t ++ rest)
  rw [← List.cons_append] at hsign
  unfold readInt
  split
  next heq => exact absurd (hbase _ _ heq) (by decide)
  next heq => exact absurd (hbase _ _ heq) (by decide)
  next heq => exact absurd (hbase _ _ heq) (by decide)
  next =>
    rw [hsign]
    simp only [hwhole, hvalue, Option.bind_eq_bind, Option.bind_some]
    exact Option.map_eq_bind.symm

end Numbers

def IsInk (c : Char) : Prop :=
  isText c = true ∧ Unicode.isWhiteSpace c = false

instance : DecidablePred IsInk :=
  fun _ => inferInstanceAs (Decidable (_ ∧ _))

theorem isInk_of_isDigit (h : c.isDigit = true) : IsInk c := by
  obtain ⟨hlow, hhigh⟩ : 48 ≤ c.toNat ∧ c.toNat ≤ 57 := by
    simpa [Char.isDigit, UInt32.le_iff_toNat_le] using h
  obtain ⟨k, hk⟩ : ∃ k, c.toNat = k := ⟨_, rfl⟩
  rw [← Char.ofNat_toNat c, hk]
  rw [hk] at hlow hhigh
  interval_cases k <;> decide

theorem IsInk.not_isSpace (h : IsInk c) : Quotation.isSpace c = false := by
  rw [Quotation.isSpace, Bool.or_eq_false_iff, decide_eq_false_iff_not, decide_eq_false_iff_not]
  constructor <;> rintro rfl <;> exact absurd h (by decide)

theorem IsInk.ne_newline (h : IsInk c) : c ≠ '\n' := by
  rintro rfl
  exact absurd h (by decide)

theorem isInk_of_all (h : text.all (fun c => decide (IsInk c)) = true) : ∀ c ∈ text, IsInk c :=
  fun c hc => of_decide_eq_true (List.all_eq_true.mp h c hc)

theorem isInk_signChars (negative : Bool) : ∀ c ∈ signChars negative, IsInk c :=
  isInk_of_all (by cases negative <;> decide)

theorem isInk_chars {x : Spelling} (hx : x.Regular) : ∀ c ∈ x.chars, IsInk c := by
  have hdigits {digits : List Char} (h : ∀ c ∈ digits, c.isDigit = true) :
      ∀ c ∈ digits, IsInk c := fun c hc => isInk_of_isDigit (h c hc)
  have hexponent : ∀ c ∈ exponentChars x.exponent, IsInk c := by
    cases x.exponent with
    | none => exact nofun
    | some e =>
      have hsign : IsInk (if e < 0 then '-' else '+') := by split_ifs <;> decide
      exact List.forall_mem_cons.mpr ⟨by decide, List.forall_mem_cons.mpr
        ⟨hsign, hdigits (isDigit_toDigits _)⟩⟩
  have hfraction : ∀ c ∈ fractionChars x.fraction, IsInk c := by
    have hfraction := hdigits hx.fraction_digits
    cases hx : x.fraction with
    | nil => exact nofun
    | cons d digits => exact List.forall_mem_cons.mpr ⟨by decide, hx ▸ hfraction⟩
  exact List.forall_mem_append.mpr ⟨hdigits hx.whole_digits,
    List.forall_mem_append.mpr ⟨hfraction, hexponent⟩⟩

def EndsInInk (s : List Char) : Prop :=
  ∃ body c, s = body ++ [c] ∧ IsInk c

theorem EndsInInk.append_left (s : List Char) (h : EndsInInk t) : EndsInInk (s ++ t) := by
  obtain ⟨body, c, rfl, hc⟩ := h
  exact ⟨s ++ body, c, (List.append_assoc s body [c]).symm, hc⟩

theorem endsInInk_of_forall (hne : s ≠ []) (h : ∀ c ∈ s, IsInk c) : EndsInInk s :=
  ⟨s.dropLast, s.getLast hne, (List.dropLast_append_getLast hne).symm, h _ (List.getLast_mem hne)⟩

def IsScalar : Toml → Prop
  | .string _ => True
  | .int k => -Nat.pow 2 63 ≤ k
  | .float x => Binary.Format.double.Has x
  | .bool _ => True
  | _ => False

def shift (n : ℕ) : Toml → Toml
  | .string s => .string (String.ofList (shifted n s.toList))
  | v => v

theorem intText_eq (k : ℤ) :
    intText k = signChars (decide (k < 0)) ++ Nat.toDigits 10 k.natAbs := by
  by_cases hneg : k < 0 <;> simp [intText, signChars, hneg]

theorem exists_spelling_floats {m : ℕ} {e : ℤ} (h : Binary.Format.double.Holds m e)
    (negative : Bool) : ∃ x : Spelling,
      (floats.write .double (.finite negative m e)).toList = signChars negative ++ x.chars ∧
      x.Regular ∧ x.decimal.round .double negative = .finite negative m e := by
  obtain ⟨x, htext, hx, hround, -⟩ := Binary.exists_spelling_write (l := floats) rfl
    Binary.isModest_double (k := 400) (by decide) Binary.isModest_double.greatest h negative
  exact ⟨x, htext, hx, hround⟩

theorem isInk_valueText (hv : v.IsScalar) (htext : valueText v = .ok text)
    (hstring : ∀ s, v ≠ .string s) : text ≠ [] ∧ ∀ c ∈ text, IsInk c := by
  cases v with
  | string s => exact absurd rfl (hstring s)
  | int k =>
    rw [valueText] at htext
    split_ifs at htext
    obtain rfl := Except.ok.inj htext
    rw [intText_eq]
    refine ⟨by simp [Nat.toDigits_ne_nil], ?_⟩
    exact List.forall_mem_append.mpr
      ⟨isInk_signChars _, fun c hc => isInk_of_isDigit (isDigit_toDigits _ c hc)⟩
  | float x =>
    obtain rfl := Except.ok.inj htext
    cases x with
    | nan => exact ⟨by decide, isInk_of_all (by decide)⟩
    | infinite negative =>
      exact ⟨by cases negative <;> decide, isInk_of_all (by cases negative <;> decide)⟩
    | finite negative m e =>
      obtain ⟨x, htext, hx, -⟩ := exists_spelling_floats hv negative
      obtain ⟨c, t, hct, -⟩ := Binary.exists_chars_eq hx
      rw [htext]
      refine ⟨by simp [hct], ?_⟩
      exact List.forall_mem_append.mpr ⟨isInk_signChars _, isInk_chars hx⟩
  | bool b =>
    obtain rfl := Except.ok.inj htext
    exact ⟨by cases b <;> decide, isInk_of_all (by cases b <;> decide)⟩
  | datetime s => exact hv.elim
  | array items => exact hv.elim
  | table members => exact hv.elim

theorem exists_stringText (s : List Char) :
    ∃ q body, (q = '"' ∨ q = '\'') ∧ stringText s = q :: (body ++ [q]) := by
  unfold stringText
  dsimp only
  generalize (if s.contains '\n' then ['\n'] else []) = gap
  cases quotesFor s with
  | basic => exact ⟨'"', _, .inl rfl, rfl⟩
  | literal => exact ⟨'\'', _, .inr rfl, rfl⟩
  | basicLines => exact ⟨'"', ['"', '"'] ++ gap ++ escape true 0 s ++ ['"', '"'], .inl rfl, by simp⟩
  | literalLines => exact ⟨'\'', ['\'', '\''] ++ gap ++ s ++ ['\'', '\''], .inr rfl, by simp⟩

theorem valueText_spec (hv : v.IsScalar) (htext : valueText v = .ok text) :
    (∀ c ∈ text, isText c = true ∨ c = '\n') ∧ (∃ c t, text = c :: t ∧ IsInk c) ∧
      EndsInInk text := by
  by_cases hstring : ∃ s, v = .string s
  · obtain ⟨s, rfl⟩ := hstring
    obtain rfl := Except.ok.inj htext
    obtain ⟨q, body, hq, heq⟩ := exists_stringText s.toList
    have hink : IsInk q := by rcases hq with rfl | rfl <;> decide
    exact ⟨isText_stringText s.toList, ⟨q, _, heq, hink⟩, q :: body, q, heq, hink⟩
  · obtain ⟨hne, hink⟩ := isInk_valueText hv htext (not_exists.mp hstring)
    obtain ⟨c, t, rfl⟩ := List.exists_cons_of_ne_nil hne
    exact ⟨fun d hd => .inl (hink d hd).1, ⟨c, t, rfl, hink c List.mem_cons_self⟩,
      endsInInk_of_forall hne hink⟩

theorem readValue_string (hrest : AtLineEnd rest) (n bound depth : ℕ) (s : List Char) :
    readValue (bound + 1) depth (inset n (stringText s) ++ rest) =
      some (.string (String.ofList (shifted n s)), rest) := by
  have hends : ∀ c ∈ rest.head?, c ≠ '"' ∧ c ≠ '\'' := by
    intro c hc
    rw [hrest c hc]
    decide
  have hread := read_inset_stringText n s hends
  obtain ⟨q, body, hq, heq⟩ := exists_stringText s
  have hnewline : q ≠ '\n' := by rcases hq with rfl | rfl <;> decide
  rw [heq, Text.inset_cons_of_ne hnewline, List.cons_append] at hread ⊢
  rw [readValue, if_pos hq, hread]
  rfl

theorem readValue_int {k : ℤ} (hlow : -Nat.pow 2 63 ≤ k) (hhigh : k < Nat.pow 2 63)
    (hrest : AtLineEnd rest) (bound depth : ℕ) :
    readValue (bound + 1) depth (intText k ++ rest) = some (.int k, rest) := by
  have hne : Nat.toDigits 10 k.natAbs ≠ [] := Nat.toDigits_ne_nil
  have hdigits := isDigit_toDigits k.natAbs
  have hlead := toDigits_ne_zero_cons k.natAbs
  have hvalue : (if decide (k < 0) = true then -(k.natAbs : ℤ) else k.natAbs) = k := by
    simp only [decide_eq_true_eq]
    split_ifs <;> omega
  have hdecimal := readDecimal_digits (decide (k < 0)) hne hdigits hlead hrest
  have hint := readInt_digits (decide (k < 0)) hne hdigits hlead hrest
  rw [Nat.ofDigitChars_ten_toDigits, hvalue, inRange, if_pos ⟨hlow, hhigh⟩] at hint
  rw [intText_eq, List.append_assoc]
  generalize Nat.toDigits 10 k.natAbs = digits at hne hdigits hdecimal hint
  have hend : ∀ d ∈ ((digits ++ rest).dropWhile Char.isDigit).head?, d ≠ '-' ∧ d ≠ ':' := by
    rw [dropWhile_run hdigits fun c hc => (hrest.endsDigits c hc).1]
    intro d hd
    rw [hrest d hd]
    decide
  obtain ⟨c, t, rfl⟩ := List.exists_cons_of_ne_nil hne
  rw [List.cons_append] at hend hdecimal hint ⊢
  rw [readValue_number _ (hdigits c List.mem_cons_self) hend, hdecimal, hint]
  rfl

theorem readValue_chars (negative : Bool) {x : Spelling} (hx : x.Regular)
    (hround : x.decimal.round .double negative ≠ .infinite false) (hrest : AtLineEnd rest)
    (bound depth : ℕ) : readValue (bound + 1) depth (signChars negative ++ (x.chars ++ rest)) =
      some (.float (x.decimal.round .double negative), rest) := by
  have hdecimal := readDecimal_chars negative hx hrest hround
  have hhead := head?_fraction x.fraction x.exponent hrest
  have hend : ∀ d ∈ ((x.chars ++ rest).dropWhile Char.isDigit).head?, d ≠ '-' ∧ d ≠ ':' := by
    rw [chars_append, dropWhile_run hx.whole_digits
      fun c hc => (endsDigits_of_head? hhead c hc).1]
    intro d hd
    rcases hhead d hd with rfl | rfl | rfl <;> decide
  obtain ⟨c, t, hct, hc⟩ := Binary.exists_chars_eq hx
  rw [hct, List.cons_append] at hend hdecimal ⊢
  rw [readValue_number negative hc hend, hdecimal]
  rfl

theorem readValue_valueText (hv : v.IsScalar) (htext : valueText v = .ok text)
    (hrest : AtLineEnd rest) (n bound depth : ℕ) :
    readValue (bound + 1) depth (inset n text ++ rest) = some (v.shift n, rest) := by
  by_cases hstring : ∃ s, v = .string s
  · obtain ⟨s, rfl⟩ := hstring
    obtain rfl := Except.ok.inj htext
    exact readValue_string hrest n bound depth s.toList
  · have hink := isInk_valueText hv htext (not_exists.mp hstring)
    rw [Text.inset_of_not_mem (not_mem_of_isText (fun c hc => (hink.2 c hc).1) rfl)]
    cases v with
    | string s => exact absurd ⟨s, rfl⟩ hstring
    | int k =>
      rw [valueText] at htext
      split_ifs at htext with hhigh
      obtain rfl := Except.ok.inj htext
      exact readValue_int hv hhigh hrest bound depth
    | float x =>
      obtain rfl := Except.ok.inj htext
      cases x with
      | nan => rfl
      | infinite negative => cases negative <;> rfl
      | finite negative m e =>
        obtain ⟨x, htext, hx, hround⟩ := exists_spelling_floats hv negative
        have hread := readValue_chars negative hx (by simp [hround]) hrest bound depth
        rw [hround] at hread
        rw [htext, List.append_assoc]
        exact hread
    | bool b =>
      obtain rfl := Except.ok.inj htext
      cases b <;> rfl
    | datetime s => exact hv.elim
    | array items => exact hv.elim
    | table members => exact hv.elim

end PromptRelay.Toml
