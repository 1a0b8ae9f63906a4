import Mathlib.Data.List.TakeWhile
import PromptRelay.Proofs.Json.Records
import PromptRelay.Proofs.Json.RoundTrip

/-!
Texts that end in an object. If more than blanks comes before it they hold no value: whatever is
read of them ends before the object, or behind its first quote, and nothing can go on there.
-/

namespace PromptRelay.Json

variable {k k' : Cursor} {t : List Char}

namespace Cursor

theorem suffix_next_of_ne (h : t <:+ k.rest) (hne : k.rest ≠ t) : t <:+ k.next.rest := by
  obtain ⟨p, hp⟩ := h
  cases p with
  | nil => exact absurd hp.symm hne
  | cons c p =>
    rw [rest_next hp.symm]
    exact List.suffix_append _ _

theorem suffix_next (h : '{' :: t <:+ k.rest) (hpeek : k.peek ≠ '{') :
    '{' :: t <:+ k.next.rest :=
  suffix_next_of_ne h fun hrest => hpeek (peek_eq hrest)

theorem suffix_skip {p : Char → Bool} (hp : p '{' = false) (h : '{' :: t <:+ k.rest) :
    '{' :: t <:+ (k.skip p).rest := by
  obtain ⟨s, hs⟩ := h
  rw [rest_skip, ← hs]
  clear hs
  induction s with
  | nil => simp [hp]
  | cons c s ih =>
    rw [List.cons_append, List.dropWhile_cons]
    split
    · exact ih
    · exact List.suffix_append (c :: s) _

theorem suffix_word {w : List Char} (hw : '{' ∉ w) (h : '{' :: t <:+ k.rest)
    (hword : k.word w = .ok k') : '{' :: t <:+ k'.rest := by
  induction w generalizing k with
  | nil =>
    obtain rfl := Except.ok.inj hword
    exact h
  | cons c w ih =>
    rw [List.mem_cons, not_or] at hw
    rw [word] at hword
    split at hword
    · cases hword
    next d hpeek =>
      split_ifs at hword with hd
      refine ih hw.2 (suffix_next h ?_) hword
      rw [peek, hpeek, Option.getD_some, hd]
      exact Ne.symm hw.1

end Cursor

open Cursor (suffix_next suffix_skip suffix_word)

namespace Numeral

variable {negative : Bool} {significand : ℕ} {e : ℤ} {n : Numeral}

theorem finish_cursor (h : finish k negative significand e = .ok (n, k')) : k' = k := by
  unfold finish at h
  split at h
  · exact (Prod.mk.inj (Except.ok.inj h)).2.symm
  · cases h

theorem suffix_readExponent (hk : '{' :: t <:+ k.rest) (hpeek : k.peek ≠ '{')
    (h : readExponent k negative significand e = .ok (n, k')) : '{' :: t <:+ k'.rest := by
  have hsign : '{' :: t <:+
      (if k.next.peek = '+' || k.next.peek = '-' then k.next.next else k.next).rest := by
    split
    next hsign =>
      refine suffix_next (suffix_next hk hpeek) ?_
      intro hbrace
      simp [hbrace] at hsign
    next => exact suffix_next hk hpeek
  unfold readExponent at h
  dsimp only at h
  generalize (if k.next.peek = '+' || k.next.peek = '-' then k.next.next else k.next) = k₁
    at h hsign
  have hdigits := suffix_skip (p := Char.isDigit) rfl hsign
  split at h
  · cases h
  split at h
  · cases h
  split at h
  · split at h
    · cases h
    · rw [← (Prod.mk.inj (Except.ok.inj h)).2]
      exact hdigits
  · rw [finish_cursor h]
    exact hdigits

theorem suffix_readFraction (hk : '{' :: t <:+ k.rest) (hpeek : k.peek ≠ '{')
    (h : readFraction k negative significand e = .ok (n, k')) : '{' :: t <:+ k'.rest := by
  have hdigits := suffix_skip (p := Char.isDigit) rfl (suffix_next hk hpeek)
  unfold readFraction readScale at h
  dsimp only at h
  split at h
  · cases h
  split at h
  · cases h
  split at h
  next hletter =>
    refine suffix_readExponent hdigits ?_ h
    intro hbrace
    simp [hbrace] at hletter
  next =>
    rw [finish_cursor h]
    exact hdigits

theorem suffix_readUnsigned (hk : '{' :: t <:+ k.rest)
    (h : readUnsigned k negative = .ok (n, k')) : '{' :: t <:+ k'.rest := by
  have hdigits := suffix_skip (p := Char.isDigit) rfl hk
  unfold readUnsigned at h
  dsimp only at h
  split at h
  · cases h
  · cases h
  split at h
  next hpoint =>
    refine suffix_readFraction hdigits ?_ h
    rw [hpoint]
    decide
  split at h
  next hletter =>
    refine suffix_readExponent hdigits ?_ h
    intro hbrace
    simp [hbrace] at hletter
  split at h
  · rw [finish_cursor h]
    exact hdigits
  · rw [← (Prod.mk.inj (Except.ok.inj h)).2]
    exact hdigits

theorem suffix_read (hk : '{' :: t <:+ k.rest) (h : read k = .ok (n, k')) :
    '{' :: t <:+ k'.rest := by
  unfold read at h
  split at h
  next hminus =>
    refine suffix_readUnsigned (suffix_next hk ?_) h
    rw [hminus]
    decide
  next => exact suffix_readUnsigned hk h

end Numeral

namespace Quotation

theorem suffix_readUnit {n : ℕ} (hk : '{' :: t <:+ k.rest) (h : readUnit k = .ok (n, k')) :
    '{' :: t <:+ k'.rest := by
  have hbrace {c : Char} {m : ℕ} (hc : Text.hexValue? c = some m) : c ≠ '{' := by
    rintro rfl
    cases hc
  unfold readUnit at h
  dsimp only at h
  split at h
  next value hvalue =>
    split at hvalue
    next a b c d s hrest =>
      have hb := Cursor.rest_next hrest
      have hc := Cursor.rest_next hb
      have hd := Cursor.rest_next hc
      simp only [Option.bind_eq_bind, Option.bind_eq_some_iff, Option.pure_def] at hvalue
      obtain ⟨w, ha', x, hb', y, hc', z, hd', -⟩ := hvalue
      rw [← (Prod.mk.inj (Except.ok.inj h)).2]
      have hk₁ := suffix_next hk (by rw [Cursor.peek_eq hrest]; exact hbrace ha')
      have hk₂ := suffix_next hk₁ (by rw [Cursor.peek_eq hb]; exact hbrace hb')
      have hk₃ := suffix_next hk₂ (by rw [Cursor.peek_eq hc]; exact hbrace hc')
      exact suffix_next hk₃ (by rw [Cursor.peek_eq hd]; exact hbrace hd')
    next => cases hvalue
  next => split at h <;> cases h

theorem suffix_take {c : Char} (hc : c ≠ '{') (hk : '{' :: t <:+ k.rest)
    (h : take k c = .ok k') : '{' :: t <:+ k'.rest := by
  unfold take at h
  split at h
  · cases h
  next x hpeek =>
    split_ifs at h with hx
    obtain rfl := Except.ok.inj h
    refine suffix_next hk ?_
    rw [Cursor.peek, hpeek, Option.getD_some, hx]
    exact hc

theorem suffix_readCode {c : Char} (hk : '{' :: t <:+ k.rest) (h : readCode k = .ok (c, k')) :
    '{' :: t <:+ k'.rest := by
  unfold readCode at h
  obtain ⟨⟨n, k₁⟩, hunit, h⟩ := exists_ok_of_bind h
  have hk₁ := suffix_readUnit hk hunit
  dsimp only at h
  split at h
  · cases h
  split at h
  · obtain ⟨-, rfl⟩ := Prod.mk.inj (Except.ok.inj h)
    exact hk₁
  obtain ⟨k₂, hbackslash, h⟩ := exists_ok_of_bind h
  obtain ⟨k₃, hu, h⟩ := exists_ok_of_bind h
  obtain ⟨⟨m, k₄⟩, hunit', h⟩ := exists_ok_of_bind h
  have hk₃ := suffix_take (by decide) (suffix_take (by decide) hk₁ hbackslash) hu
  have hk₄ := suffix_readUnit hk₃ hunit'
  dsimp only at h
  split at h
  · cases h
  · obtain ⟨-, rfl⟩ := Prod.mk.inj (Except.ok.inj h)
    exact hk₄

theorem suffix_readEscape {c : Char} (hk : '{' :: t <:+ k.rest)
    (h : readEscape k = .ok (c, k')) : '{' :: t <:+ k'.rest := by
  unfold readEscape at h
  split at h
  · cases h
  next hpeek =>
    refine suffix_readCode (suffix_next hk ?_) h
    rw [Cursor.peek, hpeek]
    decide
  next d hu hpeek =>
    split at h
    next x hshort =>
      obtain ⟨-, rfl⟩ := Prod.mk.inj (Except.ok.inj h)
      refine suffix_next hk ?_
      rw [Cursor.peek, hpeek, Option.getD_some]
      rintro rfl
      cases hshort
    next => cases h

theorem suffix_readUpTo {bound : ℕ} {s : List Char} (hk : '{' :: '"' :: t <:+ k.rest)
    (h : readUpTo bound k = .ok (s, k')) : '{' :: '"' :: t <:+ k'.rest ∨ k'.rest = t := by
  induction bound generalizing k s with
  | zero => cases h
  | succ bound ih =>
    rw [readUpTo] at h
    split at h
    · cases h
    next c hpeek? =>
      have hpeek : k.peek = c := by rw [Cursor.peek, hpeek?, Option.getD_some]
      split_ifs at h with hquote hbackslash hcontrol
      · obtain ⟨-, rfl⟩ := Prod.mk.inj (Except.ok.inj h)
        exact .inl (suffix_next hk (by rw [hpeek, hquote]; decide))
      · have hnext := suffix_next hk (by rw [hpeek, hbackslash]; decide)
        obtain ⟨⟨x, k₁⟩, hescape, h⟩ := exists_ok_of_bind h
        obtain ⟨⟨s', k₂⟩, hrest, h⟩ := exists_ok_of_bind h
        obtain ⟨-, rfl⟩ := Prod.mk.inj (Except.ok.inj h)
        exact ih (suffix_readEscape hnext hescape) hrest
      · obtain ⟨⟨s', k₁⟩, hrest, h⟩ := exists_ok_of_bind h
        obtain ⟨-, rfl⟩ := Prod.mk.inj (Except.ok.inj h)
        by_cases hwhole : k.rest = '{' :: '"' :: t
        · -- The quote of the object is taken for the end of the string.
          have hquote := Cursor.rest_next hwhole
          cases bound with
          | zero => cases hrest
          | succ bound =>
            rw [readUpTo, Cursor.peek?_eq hquote] at hrest
            obtain ⟨-, rfl⟩ := Prod.mk.inj (Except.ok.inj hrest)
            exact .inr (Cursor.rest_next hquote)
        · exact ih (Cursor.suffix_next_of_ne hk hwhole) hrest

theorem suffix_read {s : String} (hk : '{' :: '"' :: t <:+ k.rest) (h : read k = .ok (s, k')) :
    '{' :: '"' :: t <:+ k'.rest ∨ k'.rest = t := by
  obtain ⟨⟨s', k₁⟩, hread, h⟩ := exists_ok_of_bind h
  obtain ⟨-, rfl⟩ := Prod.mk.inj (Except.ok.inj h)
  exact suffix_readUpTo hk hread

end Quotation

def IsDeadEnd (s : List Char) : Prop :=
  ∀ c ∈ s.head?, c.isLower = true

theorem IsDeadEnd.skipBlanks (h : IsDeadEnd k.rest) : k.skipBlanks = k := by
  obtain ⟨line, column, rest⟩ := k
  cases rest with
  | nil => rfl
  | cons c s =>
    have hc : c.isLower = true := h c rfl
    apply Cursor.skip_eq_self rfl
    cases hblank : Cursor.isBlank c with
    | false => rfl
    | true =>
      simp only [Cursor.isBlank, Bool.or_eq_true, decide_eq_true_eq] at hblank
      rcases hblank with ((rfl | rfl) | rfl) | rfl <;> cases hc

theorem IsDeadEnd.ahead (h : IsDeadEnd k.rest) {problem : Problem}
    (hahead : ahead k problem = .ok k') : k' = k ∧ k.peek.isLower = true := by
  unfold Json.ahead at hahead
  dsimp only at hahead
  rw [h.skipBlanks] at hahead
  split_ifs at hahead with hempty
  obtain ⟨c, s, hrest⟩ := List.exists_cons_of_ne_nil (by simpa using hempty)
  rw [Cursor.peek_eq hrest]
  exact ⟨(Except.ok.inj hahead).symm, h c (by rw [hrest]; rfl)⟩

theorem IsDeadEnd.nextItem (h : IsDeadEnd k.rest) {x : Bool × Cursor} :
    nextItem false k ≠ .ok x := by
  intro hnext
  unfold Json.nextItem at hnext
  obtain ⟨k₁, hahead, hrest⟩ := exists_ok_of_bind hnext
  obtain ⟨rfl, hlower⟩ := h.ahead hahead
  split at hrest
  next hend =>
    rw [hend] at hlower
    cases hlower
  split at hrest
  next hfirst => cases hfirst
  dsimp only at hrest
  split at hrest
  · cases hrest
  next hcomma =>
    rw [not_not.mp hcomma] at hlower
    cases hlower

theorem IsDeadEnd.nextMember (h : IsDeadEnd k.rest) {x : Bool × Cursor} :
    nextMember false k ≠ .ok x := by
  intro hnext
  unfold Json.nextMember at hnext
  obtain ⟨k₁, hahead, hrest⟩ := exists_ok_of_bind hnext
  obtain ⟨rfl, hlower⟩ := h.ahead hahead
  split at hrest
  next hend =>
    rw [hend] at hlower
    cases hlower
  dsimp only at hrest
  split at hrest
  next hfirst => cases hfirst
  split at hrest
  · cases hrest
  next hcomma =>
    rw [not_not.mp hcomma] at hlower
    cases hlower

theorem IsDeadEnd.readColon (h : IsDeadEnd k.rest) : readColon k ≠ .ok k' := by
  intro hcolon
  unfold Json.readColon at hcolon
  obtain ⟨k₁, hahead, hrest⟩ := exists_ok_of_bind hcolon
  obtain ⟨rfl, hlower⟩ := h.ahead hahead
  split at hrest
  next hpeek =>
    rw [hpeek] at hlower
    cases hlower
  next => cases hrest

theorem suffix_ahead {problem : Problem} (hk : '{' :: t <:+ k.rest)
    (h : ahead k problem = .ok k') : '{' :: t <:+ k'.rest := by
  unfold ahead at h
  dsimp only at h
  split at h
  · cases h
  · obtain rfl := Except.ok.inj h
    exact suffix_skip rfl hk

theorem suffix_readColon (hk : '{' :: t <:+ k.rest) (h : readColon k = .ok k') :
    '{' :: t <:+ k'.rest := by
  unfold readColon at h
  obtain ⟨k₁, hahead, h⟩ := exists_ok_of_bind h
  split at h
  next hpeek =>
    obtain rfl := Except.ok.inj h
    exact suffix_next (suffix_ahead hk hahead) (by rw [hpeek]; decide)
  next => cases h

theorem suffix_nextItem {first more : Bool} (hk : '{' :: t <:+ k.rest)
    (h : nextItem first k = .ok (more, k')) :
    '{' :: t <:+ k'.rest ∧ (more = false → k'.peek = ']') := by
  unfold nextItem at h
  obtain ⟨k₁, hahead, h⟩ := exists_ok_of_bind h
  have hk₁ := suffix_ahead hk hahead
  split at h
  next hend =>
    obtain ⟨rfl, rfl⟩ := Prod.mk.inj (Except.ok.inj h)
    exact ⟨hk₁, fun _ => hend⟩
  split at h
  · obtain ⟨rfl, rfl⟩ := Prod.mk.inj (Except.ok.inj h)
    exact ⟨hk₁, nofun⟩
  dsimp only at h
  split at h
  · cases h
  next hcomma =>
    have hnext := suffix_next hk₁ (by rw [not_not.mp hcomma]; decide)
    obtain ⟨k₂, hahead', h⟩ := exists_ok_of_bind h
    split at h
    · cases h
    · obtain ⟨rfl, rfl⟩ := Prod.mk.inj (Except.ok.inj h)
      exact ⟨suffix_ahead hnext hahead', nofun⟩

theorem suffix_nextMember {first more : Bool} (hk : '{' :: t <:+ k.rest)
    (h : nextMember first k = .ok (more, k')) :
    '{' :: t <:+ k'.rest ∧ k'.peek = if more then '"' else '}' := by
  unfold nextMember at h
  obtain ⟨k₁, hahead, h⟩ := exists_ok_of_bind h
  have hk₁ := suffix_ahead hk hahead
  split at h
  next hend =>
    obtain ⟨rfl, rfl⟩ := Prod.mk.inj (Except.ok.inj h)
    exact ⟨hk₁, hend⟩
  have hquote {k₂ : Cursor} {e : Error} (hk₂ : '{' :: t <:+ k₂.rest)
      (h : (if k₂.peek = '"' then .ok (true, k₂) else .error e) = Except.ok (more, k')) :
      '{' :: t <:+ k'.rest ∧ k'.peek = if more then '"' else '}' := by
    split_ifs at h with hpeek
    obtain ⟨rfl, rfl⟩ := Prod.mk.inj (Except.ok.inj h)
    exact ⟨hk₂, hpeek⟩
  dsimp only at h
  split at h
  · exact hquote hk₁ h
  split at h
  · cases h
  next hcomma =>
    have hnext := suffix_next hk₁ (by rw [not_not.mp hcomma]; decide)
    obtain ⟨k₂, hahead', h⟩ := exists_ok_of_bind h
    exact hquote (suffix_ahead hnext hahead') h

namespace Value

structure Extends (bound : ℕ) : Prop where
  value {k : Cursor} {x : Value × Cursor} (h : read bound k = .ok x) : read (bound + 1) k = .ok x
  items {first : Bool} {k : Cursor} {x : List Value × Cursor}
    (h : readItems bound first k = .ok x) : readItems (bound + 1) first k = .ok x
  members {first : Bool} {k : Cursor} {x : List (String × Value) × Cursor}
    (h : readMembers bound first k = .ok x) : readMembers (bound + 1) first k = .ok x

variable {bound : ℕ}

theorem Extends.value_succ (ih : Extends bound) {x : Value × Cursor}
    (h : read (bound + 1) k = .ok x) : read (bound + 2) k = .ok x := by
  rw [read] at h ⊢
  obtain ⟨k₁, hahead, h⟩ := exists_ok_of_bind h
  rw [hahead]
  simp only [bind, Except.bind] at h ⊢
  split at h
  case h_5 =>
    split at h
    · cases h
    next items hitems =>
      rw [ih.items hitems]
      exact h
  case h_6 =>
    split at h
    · cases h
    next members hmembers =>
      rw [ih.members hmembers]
      exact h
  all_goals exact h

theorem Extends.items_succ (ih : Extends bound) {first : Bool} {x : List Value × Cursor}
    (h : readItems (bound + 1) first k = .ok x) : readItems (bound + 2) first k = .ok x := by
  rw [readItems] at h ⊢
  obtain ⟨⟨more, k₁⟩, hnext, h⟩ := exists_ok_of_bind h
  cases more with
  | false =>
    rw [hnext]
    exact h
  | true =>
    obtain ⟨⟨v, k₂⟩, hvalue, h⟩ := exists_ok_of_bind h
    obtain ⟨⟨items, k₃⟩, hitems, h⟩ := exists_ok_of_bind h
    simp only [hnext, ih.value hvalue, ih.items hitems, bind, Except.bind, Bool.not_true,
      Bool.false_eq_true, if_false]
    exact h

theorem Extends.members_succ (ih : Extends bound) {first : Bool}
    {x : List (String × Value) × Cursor} (h : readMembers (bound + 1) first k = .ok x) :
    readMembers (bound + 2) first k = .ok x := by
  rw [readMembers] at h ⊢
  obtain ⟨⟨more, k₁⟩, hnext, h⟩ := exists_ok_of_bind h
  cases more with
  | false =>
    rw [hnext]
    exact h
  | true =>
    obtain ⟨⟨name, k₂⟩, hname, h⟩ := exists_ok_of_bind h
    obtain ⟨k₃, hcolon, h⟩ := exists_ok_of_bind h
    obtain ⟨⟨v, k₄⟩, hvalue, h⟩ := exists_ok_of_bind h
    obtain ⟨⟨members, k₅⟩, hmembers, h⟩ := exists_ok_of_bind h
    simp only [hnext, hname, hcolon, ih.value hvalue, ih.members hmembers, bind, Except.bind,
      Bool.not_true, Bool.false_eq_true, if_false]
    exact h

theorem extends_succ (bound : ℕ) : Extends bound := by
  induction bound with
  | zero => exact ⟨nofun, nofun, nofun⟩
  | succ bound ih => exact ⟨ih.value_succ, ih.items_succ, ih.members_succ⟩

theorem read_of_le {bound' : ℕ} (hle : bound ≤ bound') {x : Value × Cursor}
    (h : read bound k = .ok x) : read bound' k = .ok x := by
  induction hle with
  | refl => exact h
  | step hle ih => exact (extends_succ _).value ih

theorem rest_read_chars {v : Json} {w x : Value} (h : Denotes v w) (hk : k.rest = v.chars)
    (hread : read bound k = .ok (x, k')) : x = w ∧ k'.rest = [] := by
  have hends : Numeral.Ends [] := fun c s h => by cases h
  obtain ⟨k₁, hread₁, hk₁⟩ := (readsBack (max bound v.chars.length)).value h
    (Nat.le_max_right _ _) hends k (by rw [hk, List.append_nil])
  have hsame := (read_of_le (Nat.le_max_left _ v.chars.length) hread).symm.trans hread₁
  obtain ⟨rfl, rfl⟩ := Prod.mk.inj (Except.ok.inj hsame)
  exact ⟨rfl, hk₁⟩

/-- An object with a name that begins with a letter, as its text does: that is where `t` begins. -/
structure IsNamed (v : Json) (w : Value) (t : List Char) : Prop where
  denotes : Denotes v w
  chars : v.chars = '{' :: '"' :: t
  isDeadEnd : IsDeadEnd t
  ne_nil : t ≠ []

structure Spares (t : List Char) (bound : ℕ) : Prop where
  value {k k' : Cursor} {x : Value} (hk : '{' :: '"' :: t <:+ k.rest)
    (h : read bound k = .ok (x, k')) : '{' :: '"' :: t <:+ k'.rest ∨
      IsDeadEnd k'.rest ∧ (k'.rest = [] → k.skipBlanks.rest = '{' :: '"' :: t)
  items {first : Bool} {k k' : Cursor} {items : List Value} (hk : '{' :: '"' :: t <:+ k.rest)
    (h : readItems bound first k = .ok (items, k')) : '{' :: '"' :: t <:+ k'.rest
  members {first : Bool} {k k' : Cursor} {members : List (String × Value)}
    (hk : '{' :: '"' :: t <:+ k.rest) (h : readMembers bound first k = .ok (members, k')) :
    '{' :: '"' :: t <:+ k'.rest

variable {v : Json} {w : Value}

theorem eq_skipBlanks_of_ahead {problem : Problem} (h : ahead k problem = .ok k') :
    k' = k.skipBlanks := by
  unfold ahead at h
  dsimp only at h
  split at h
  · cases h
  · exact (Except.ok.inj h).symm

theorem read_skipBlanks {c : Char} {s : List Char} (hc : Cursor.isBlank c = false)
    (hk : k.skipBlanks.rest = c :: s) : read (bound + 1) k.skipBlanks = read (bound + 1) k := by
  have hahead : ahead k .endInValue = .ok k.skipBlanks := by simp [ahead, hk]
  rw [read, read, ahead_eq hk hc, hahead]

theorem Spares.value_succ (hv : IsNamed v w t) (ih : Spares t bound) {x : Value}
    (hk : '{' :: '"' :: t <:+ k.rest) (h : read (bound + 1) k = .ok (x, k')) :
    '{' :: '"' :: t <:+ k'.rest ∨
      IsDeadEnd k'.rest ∧ (k'.rest = [] → k.skipBlanks.rest = '{' :: '"' :: t) := by
  by_cases hwhole : k.skipBlanks.rest = '{' :: '"' :: t
  · -- There is nothing before the object, so it is read itself.
    rw [← read_skipBlanks rfl hwhole] at h
    have hend := (rest_read_chars hv.denotes (hwhole.trans hv.chars.symm) h).2
    rw [hend]
    exact .inr ⟨nofun, fun _ => hwhole⟩
  rw [read] at h
  obtain ⟨k₁, hahead, h⟩ := exists_ok_of_bind h
  have hk₁ := suffix_ahead hk hahead
  obtain rfl := eq_skipBlanks_of_ahead hahead
  have hnext := Cursor.suffix_next_of_ne hk₁ hwhole
  dsimp only at h
  split at h
  case h_4 =>
    obtain ⟨⟨s, k₂⟩, hstring, h⟩ := exists_ok_of_bind h
    obtain ⟨-, rfl⟩ := Prod.mk.inj (Except.ok.inj h)
    rcases Quotation.suffix_read hnext hstring with hbefore | hinside
    · exact .inl hbefore
    · rw [hinside]
      exact .inr ⟨hv.isDeadEnd, fun hnil => absurd hnil hv.ne_nil⟩
  case h_5 =>
    obtain ⟨⟨items, k₂⟩, hitems, h⟩ := exists_ok_of_bind h
    obtain ⟨-, rfl⟩ := Prod.mk.inj (Except.ok.inj h)
    exact .inl (ih.items hnext hitems)
  case h_6 =>
    obtain ⟨⟨members, k₂⟩, hmembers, h⟩ := exists_ok_of_bind h
    obtain ⟨-, rfl⟩ := Prod.mk.inj (Except.ok.inj h)
    exact .inl (ih.members hnext hmembers)
  case h_7 =>
    split at h
    · obtain ⟨⟨n, k₂⟩, hnumber, h⟩ := exists_ok_of_bind h
      obtain ⟨-, rfl⟩ := Prod.mk.inj (Except.ok.inj h)
      exact .inl (Numeral.suffix_read hk₁ hnumber)
    · cases h
  all_goals
    obtain ⟨k₂, hword, h⟩ := exists_ok_of_bind h
    obtain ⟨-, rfl⟩ := Prod.mk.inj (Except.ok.inj h)
    exact .inl (suffix_word (by decide) hnext hword)

theorem Spares.items_succ (ih : Spares t bound) {first : Bool} {items : List Value}
    (hk : '{' :: '"' :: t <:+ k.rest) (h : readItems (bound + 1) first k = .ok (items, k')) :
    '{' :: '"' :: t <:+ k'.rest := by
  rw [readItems] at h
  obtain ⟨⟨more, k₁⟩, hnext, h⟩ := exists_ok_of_bind h
  obtain ⟨hk₁, hend⟩ := suffix_nextItem hk hnext
  cases more with
  | false =>
    obtain ⟨-, rfl⟩ := Prod.mk.inj (Except.ok.inj h)
    exact suffix_next hk₁ (by rw [hend rfl]; decide)
  | true =>
    obtain ⟨⟨x, k₂⟩, hvalue, h⟩ := exists_ok_of_bind h
    obtain ⟨⟨rest, k₃⟩, hrest, h⟩ := exists_ok_of_bind h
    obtain ⟨-, rfl⟩ := Prod.mk.inj (Except.ok.inj h)
    rcases ih.value hk₁ hvalue with hbefore | ⟨hdead, -⟩
    · exact ih.items hbefore hrest
    · cases bound with
      | zero => cases hrest
      | succ bound =>
        rw [readItems] at hrest
        obtain ⟨next, hnext, -⟩ := exists_ok_of_bind hrest
        exact absurd hnext hdead.nextItem

theorem Spares.members_succ (hv : IsNamed v w t) (ih : Spares t bound) {first : Bool}
    {members : List (String × Value)} (hk : '{' :: '"' :: t <:+ k.rest)
    (h : readMembers (bound + 1) first k = .ok (members, k')) : '{' :: '"' :: t <:+ k'.rest := by
  rw [readMembers] at h
  obtain ⟨⟨more, k₁⟩, hnext, h⟩ := exists_ok_of_bind h
  obtain ⟨hk₁, hpeek⟩ := suffix_nextMember hk hnext
  have hk₂ : '{' :: '"' :: t <:+ k₁.next.rest :=
    suffix_next hk₁ (by rw [hpeek]; cases more <;> decide)
  cases more with
  | false =>
    obtain ⟨-, rfl⟩ := Prod.mk.inj (Except.ok.inj h)
    exact hk₂
  | true =>
    obtain ⟨⟨name, k₃⟩, hname, h⟩ := exists_ok_of_bind h
    obtain ⟨k₄, hcolon, h⟩ := exists_ok_of_bind h
    obtain ⟨⟨x, k₅⟩, hvalue, h⟩ := exists_ok_of_bind h
    obtain ⟨⟨rest, k₆⟩, hrest, h⟩ := exists_ok_of_bind h
    obtain ⟨-, rfl⟩ := Prod.mk.inj (Except.ok.inj h)
    rcases Quotation.suffix_read hk₂ hname with hbefore | hinside
    · rcases ih.value (suffix_readColon hbefore hcolon) hvalue with hbefore | ⟨hdead, -⟩
      · exact ih.members hbefore hrest
      · cases bound with
        | zero => cases hrest
        | succ bound =>
          rw [readMembers] at hrest
          obtain ⟨next, hnext, -⟩ := exists_ok_of_bind hrest
          exact absurd hnext hdead.nextMember
    · exact absurd hcolon (hinside ▸ hv.isDeadEnd).readColon

theorem spares (hv : IsNamed v w t) (bound : ℕ) : Spares t bound := by
  induction bound with
  | zero => exact ⟨nofun, nofun, nofun⟩
  | succ bound ih => exact ⟨ih.value_succ hv, ih.items_succ, ih.members_succ hv⟩

theorem rest_skipBlanks_append {p s : List Char} {c : Char} (hc : Cursor.isBlank c = false)
    (hk : k.rest = p ++ c :: s) :
    k.skipBlanks.rest = c :: s ↔ ∀ d ∈ p, Cursor.isBlank d = true := by
  rw [Cursor.skipBlanks, Cursor.rest_skip, hk, List.dropWhile_append, ← List.dropWhile_eq_nil_iff]
  by_cases hp : p.dropWhile Cursor.isBlank = []
  · simp [hp, hc]
  · simp [hp]

theorem parse_append_chars (hv : IsNamed v w t) (p : List Char) (x : Value) :
    parse (String.ofList (p ++ v.chars)) = .ok x ↔
      (∀ c ∈ p, Cursor.isBlank c = true) ∧ x = w := by
  have hstart : (Cursor.start (String.ofList (p ++ v.chars))).rest = p ++ v.chars := by
    rw [Cursor.start, String.toList_ofList]
  rw [parse, String.toList_ofList]
  generalize Cursor.start (String.ofList (p ++ v.chars)) = k at hstart
  have hblanks := rest_skipBlanks_append (c := '{') rfl (hv.chars ▸ hstart)
  obtain ⟨bound, hbound⟩ : ∃ n, (p ++ v.chars).length = n + 1 := by
    simp [hv.chars, ← Nat.add_assoc]
  rw [hbound]
  constructor
  · intro h
    obtain ⟨⟨y, k'⟩, hread, h⟩ := exists_ok_of_bind h
    dsimp only at h
    split at h
    next hempty =>
      obtain rfl : y = x := Except.ok.inj h
      have hnil : k'.skipBlanks.rest = [] := by simpa using hempty
      have hsuffix : '{' :: '"' :: t <:+ k.rest := by
        rw [hstart, hv.chars]
        exact List.suffix_append _ _
      rcases (spares hv _).value hsuffix hread with hbefore | ⟨hdead, hwhole⟩
      · have hskip := suffix_skip (p := Cursor.isBlank) rfl hbefore
        rw [← Cursor.skipBlanks, hnil] at hskip
        cases List.suffix_nil.mp hskip
      · rw [hdead.skipBlanks] at hnil
        have hk := hwhole hnil
        rw [← read_skipBlanks rfl hk] at hread
        exact ⟨hblanks.mp hk, (rest_read_chars hv.denotes (hk.trans hv.chars.symm) hread).1⟩
    next => cases h
  · rintro ⟨hp, rfl⟩
    have hk := hblanks.mpr hp
    have hends : Numeral.Ends [] := fun c s h => by cases h
    have hlength : v.chars.length ≤ bound + 1 := by
      rw [← hbound, List.length_append]
      exact Nat.le_add_left _ _
    obtain ⟨k', hread, hk'⟩ := (readsBack _).value hv.denotes hlength hends k.skipBlanks
      (by rw [hk, hv.chars, List.append_nil])
    have hend : k'.skipBlanks.rest = [] := by
      rw [Cursor.skipBlanks, Cursor.rest_skip, hk']
      rfl
    rw [read_skipBlanks rfl hk] at hread
    simp [hread, hend, bind, Except.bind, pure, Except.pure]

theorem escapeChar_of_isLower {c : Char} (hc : c.isLower = true) : escapeChar c = [c] := by
  have hquote : c ≠ '"' := by
    rintro rfl
    cases hc
  have hbackslash : c ≠ '\\' := by
    rintro rfl
    cases hc
  have hletter : 'a'.val ≤ c.val := of_decide_eq_true (Bool.and_eq_true_iff.mp hc).1
  have hprintable : 0x20 ≤ c.toNat := Nat.le_trans (by decide) (UInt32.le_iff_toNat_le.mp hletter)
  rw [escapeChar, if_neg hquote, if_neg hbackslash, if_pos hprintable]

theorem exists_isNamed {members : List (String × Json)} {fields : List (String × Value)}
    (h : MembersDenote members fields) (hne : members ≠ [])
    (hnames : ∀ m ∈ members, ∃ c ∈ m.1.toList.head?, c.isLower = true) :
    ∃ t, IsNamed (.object members) (.object fields) t := by
  obtain ⟨⟨name, x⟩, rest, rfl⟩ := List.exists_cons_of_ne_nil hne
  obtain ⟨c, hhead, hc⟩ := hnames _ List.mem_cons_self
  obtain ⟨s, hs⟩ := List.head?_eq_some_iff.mp hhead
  obtain ⟨u, hu⟩ : ∃ u, (Json.object ((name, x) :: rest)).chars = '{' :: '"' :: c :: u := by
    rw [Json.chars, separated_eq, memberTexts, joined, stringText]
    simp only [hs, List.flatMap_cons, escapeChar_of_isLower hc]
    exact ⟨_, rfl⟩
  refine ⟨c :: u, ⟨.object h, hu, ?_, List.cons_ne_nil _ _⟩⟩
  intro d hd
  obtain rfl := Option.some.inj hd
  exact hc

end Value

end PromptRelay.Json
