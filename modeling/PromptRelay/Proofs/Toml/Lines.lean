import PromptRelay.Proofs.Members
import PromptRelay.Proofs.Toml.Values

namespace PromptRelay.Toml

open Quotation (isText isSpace)
open Text (inset)

variable {n : ℕ} {name key : String} {path : List String} {c : Char} {s t rest text : List Char}
  {v : Toml} {d d' e : Draft} {members ms : Members}

section Names

structure IsBare (name : String) : Prop where
  ne_nil : name.toList ≠ []
  isBareKey : ∀ c ∈ name.toList, isBareKey c = true

instance : DecidablePred IsBare := fun name =>
  decidable_of_iff (name.toList ≠ [] ∧ name.toList.all isBareKey = true)
    ⟨fun h => ⟨h.1, List.all_eq_true.mp h.2⟩, fun h => ⟨h.1, List.all_eq_true.mpr h.2⟩⟩

theorem isText_of_isBareKey (h : isBareKey c = true) : isText c = true ∧ isSpace c = false := by
  have hrange : 0x2D ≤ c.toNat ∧ c.toNat ≤ 0x7A := by
    change (((((0x41 ≤ c.val ∧ c.val ≤ 0x5A : Bool) || 0x61 ≤ c.val && c.val ≤ 0x7A) ||
      0x30 ≤ c.val && c.val ≤ 0x39) || c = '-') || c = '_') = true at h
    simp only [Bool.or_eq_true, Bool.and_eq_true, decide_eq_true_eq, UInt32.le_iff_toNat_le] at h
    rcases h with ((((h | h) | h) | rfl) | rfl)
    · exact ⟨Nat.le_trans (by decide) h.1, Nat.le_trans h.2 (by decide)⟩
    · exact ⟨Nat.le_trans (by decide) h.1, Nat.le_trans h.2 (by decide)⟩
    · exact ⟨Nat.le_trans (by decide) h.1, Nat.le_trans h.2 (by decide)⟩
    · decide
    · decide
  constructor
  · have htext : 0x20 ≤ c.toNat ∧ c.toNat ≠ 0x7F := by omega
    simp [isText, htext]
  · rw [isSpace, Bool.or_eq_false_iff, decide_eq_false_iff_not, decide_eq_false_iff_not]
    constructor <;> rintro rfl <;> exact absurd hrange.1 (by decide)

theorem IsBare.exists_cons (h : IsBare name) :
    ∃ c t, name.toList = c :: t ∧ Toml.isBareKey c = true := by
  obtain ⟨c, t, hct⟩ := List.exists_cons_of_ne_nil h.ne_nil
  exact ⟨c, t, hct, h.isBareKey c (by rw [hct]; exact List.mem_cons_self)⟩

theorem IsBare.isText (h : IsBare name) : ∀ c ∈ name.toList, isText c = true :=
  fun c hc => (isText_of_isBareKey (h.isBareKey c hc)).1

theorem IsBare.newline_not_mem (h : IsBare name) : '\n' ∉ name.toList :=
  not_mem_of_isText h.isText rfl

theorem readKey_eq (hname : IsBare name) (hkey : ∀ c ∈ s.head?, isBareKey c = false)
    (hdot : (skipSpaces s).head? ≠ some '.') :
    readKey (name.toList ++ s) = some ([], name, skipSpaces s) := by
  have htake : (name.toList ++ s).takeWhile isBareKey = name.toList :=
    takeWhile_run hname.isBareKey hkey
  have hdrop : (name.toList ++ s).dropWhile isBareKey = s :=
    dropWhile_run hname.isBareKey hkey
  obtain ⟨c, t, hct, hc⟩ := hname.exists_cons
  have hspace : skipSpaces (name.toList ++ s) = name.toList ++ s := by
    rw [hct, List.cons_append, skipSpaces,
      List.dropWhile_cons_of_neg (by simp [isText_of_isBareKey hc])]
  have hpart : readKeyPart (name.toList ++ s) = some (name, s) := by
    unfold readKeyPart
    split
    next heq =>
      rw [hct] at heq
      rw [(List.cons.inj heq).1] at hc
      cases hc
    next heq =>
      rw [hct] at heq
      rw [(List.cons.inj heq).1] at hc
      cases hc
    next => simp [htake, hdrop, hname.ne_nil]
  have hparts : readParts (depthLimit - 1) (name.toList ++ s) = some ([name], skipSpaces s) := by
    rw [depthLimit, readParts, hspace, hpart]
    simp only [Option.bind_eq_bind, Option.bind_some]
    split
    next heq => exact absurd (by rw [heq]; rfl) hdot
    next => rfl
  rw [readKey, hparts]
  rfl

end Names

section Tables

theorem alter_append (h : name ∉ ms.map Prod.fst) (f : Option Node → Option Node) (rest : Members) :
    Members.alter name f (ms ++ rest) = (Members.alter name f rest).map (ms ++ ·) := by
  induction ms with
  | nil => simp
  | cons m ms ih =>
    obtain ⟨k, v⟩ := m
    rw [List.map_cons, List.mem_cons, not_or] at h
    rw [List.cons_append, Members.alter, if_neg (Ne.symm h.1), ih h.2]
    cases Members.alter name f rest <;> rfl

theorem addTable_eq (h : name ∉ ms.map Prod.fst) :
    Members.addTable [] name ms = some (ms ++ [(name, .table .defined [])]) := by
  have halter (f : Option Node → Option Node) :
      Members.alter name f ms = (Members.alter name f []).map (ms ++ ·) := by
    rw [← alter_append h, List.append_nil]
  rw [Members.addTable, Members.atPath, halter]
  rfl

theorem assignUnder_eq (h : name ∉ ms.map Prod.fst) (hkey : key ∉ members.map Prod.fst) (v : Toml) :
    Members.assignUnder [name] [] key v (ms ++ [(name, .table .defined members)]) =
      some (ms ++ [(name, .table .defined (members ++ [(key, .value v)]))]) := by
  rw [Members.assignUnder, Members.atPath, alter_append h, Members.alter, if_pos rfl]
  have hnone : (members.lookup key).isSome = false := by
    rw [lookup_eq_none_of_not_mem hkey]
    rfl
  simp [Members.atPath, Members.assign, hnone]

end Tables

section Lines

theorem skipSpaces_eq_self (h : ∀ c ∈ s.head?, isSpace c = false) : skipSpaces s = s := by
  cases s with
  | nil => rfl
  | cons c s => exact List.dropWhile_cons_of_neg (by simp [h c rfl])

theorem skipSpaces_spaces (n : ℕ) (s : List Char) :
    skipSpaces (List.replicate n ' ' ++ s) = skipSpaces s := by
  induction n with
  | zero => rfl
  | succ n ih =>
    rw [List.replicate_succ, List.cons_append, ← ih]
    rfl

theorem AtLineEnd.endLine_eq (h : AtLineEnd s) : endLine s = some s.tail := by
  cases s with
  | nil => rfl
  | cons c s =>
    obtain rfl := h c rfl
    rfl

namespace Draft

def ReadsTo (d : Draft) (s : List Char) (e : Draft) : Prop :=
  ∀ bound, s.length < bound → readLines bound d s = some e

structure ContinuesTo (d : Draft) (s : List Char) (e : Draft) : Prop where
  atLineEnd : AtLineEnd s
  reads : d.ReadsTo s.tail e

theorem ReadsTo.spaces (n : ℕ) (h : d.ReadsTo s e) :
    d.ReadsTo (List.replicate n ' ' ++ s) e := by
  rintro (_ | bound) hbound
  · cases hbound
  · rw [List.length_append] at hbound
    have hread := h (bound + 1) (by omega)
    rw [readLines] at hread ⊢
    rw [skipSpaces_spaces]
    exact hread

theorem ContinuesTo.readsTo (h : d'.ContinuesTo rest e) (hs : skipSpaces s = c :: t)
    (hlength : rest.length ≤ s.length)
    (hline : (if c = '[' then readHeader d t
      else if c = '#' ∨ c = '\n' ∨ c = '\r' then some (d, c :: t)
      else readEntry d (c :: t)) = some (d', rest)) : d.ReadsTo s e := by
  rintro (_ | bound) hbound
  · cases hbound
  · have hpos : 0 < s.length := by
      rw [List.length_pos_iff]
      rintro rfl
      cases hs
    have htail : rest.tail.length < bound := by
      rw [List.length_tail]
      omega
    have hstep : readLines (bound + 1) d s = (if c = '[' then readHeader d t
        else if c = '#' ∨ c = '\n' ∨ c = '\r' then some (d, c :: t)
        else readEntry d (c :: t)).bind fun r => (endLine r.2).bind (readLines bound r.1) := by
      rw [readLines, hs]
      dsimp only
      split_ifs <;> rfl
    rw [hstep, hline, Option.bind_some, h.atLineEnd.endLine_eq]
    exact h.reads bound htail

theorem ReadsTo.continuesTo (h : d.ReadsTo s e) : d.ContinuesTo ('\n' :: s) e := by
  refine ⟨?_, h⟩
  rintro c ⟨⟩
  rfl

theorem ReadsTo.newline (h : d.ReadsTo s e) : d.ReadsTo ('\n' :: s) e :=
  h.continuesTo.readsTo rfl (Nat.le_refl _) rfl

theorem readsTo_self (hs : ∀ c ∈ s, c = '\n') : d.ReadsTo s d := by
  induction s with
  | nil =>
    rintro (_ | bound) hbound
    · cases hbound
    · rfl
  | cons c s ih =>
    rw [List.forall_mem_cons] at hs
    rw [hs.1]
    exact (ih hs.2).newline

theorem ContinuesTo.header (h : (⟨[name], ms⟩ : Draft).ContinuesTo rest e) (hname : IsBare name)
    (hms : d.members.addTable [] name = some ms) :
    d.ReadsTo ('[' :: (name.toList ++ ']' :: rest)) e := by
  have hkey : readKey (name.toList ++ ']' :: rest) = some ([], name, ']' :: rest) :=
    readKey_eq hname (by rintro c ⟨⟩; rfl) (by exact nofun)
  have hheader : readHeader d (name.toList ++ ']' :: rest) = some (⟨[name], ms⟩, rest) := by
    obtain ⟨c, t, hct, hc⟩ := hname.exists_cons
    unfold readHeader
    split
    next heq =>
      rw [hct] at heq
      rw [(List.cons.inj heq).1] at hc
      cases hc
    next => simp [hkey, expect, hms]
  refine h.readsTo rfl ?_ hheader
  simp only [List.length_cons, List.length_append]
  omega

theorem ContinuesTo.entry (h : (⟨d.header, ms⟩ : Draft).ContinuesTo rest e) (hname : IsBare name)
    (hv : v.IsScalar) (htext : valueText v = .ok text)
    (hms : d.members.assignUnder d.header [] name (v.shift n) = some ms) :
    d.ReadsTo (name.toList ++ ' ' :: '=' :: ' ' :: (inset n text ++ rest)) e := by
  obtain ⟨c, t, hct, hc⟩ := hname.exists_cons
  have hne {x : Char} (hx : isBareKey x = false) : c ≠ x := by
    rintro rfl
    rw [hc] at hx
    cases hx
  have hkey : readKey (name.toList ++ ' ' :: '=' :: ' ' :: (inset n text ++ rest)) =
      some ([], name, '=' :: ' ' :: (inset n text ++ rest)) :=
    readKey_eq hname (by rintro c ⟨⟩; rfl) (by exact nofun)
  have hvalue : skipSpaces (' ' :: (inset n text ++ rest)) = inset n text ++ rest := by
    obtain ⟨-, ⟨x, y, rfl, hx⟩, -⟩ := valueText_spec hv htext
    rw [Text.inset_cons_of_ne hx.ne_newline]
    exact skipSpaces_eq_self (s := x :: _) (by rintro c ⟨⟩; exact hx.not_isSpace)
  have hread := readValue_valueText hv htext h.atLineEnd n
    (2 * (' ' :: (inset n text ++ rest)).length + 1) 0
  have hentry : readEntry d (name.toList ++ ' ' :: '=' :: ' ' :: (inset n text ++ rest)) =
      some (⟨d.header, ms⟩, rest) := by
    rw [readEntry, hkey]
    simp only [Option.bind_eq_bind, Option.bind_some, expect, if_true, hvalue, hread, hms]
    rfl
  have hskip : skipSpaces (name.toList ++ ' ' :: '=' :: ' ' :: (inset n text ++ rest)) =
      c :: (t ++ ' ' :: '=' :: ' ' :: (inset n text ++ rest)) := by
    rw [hct]
    exact List.dropWhile_cons_of_neg (by simp [isText_of_isBareKey hc])
  refine h.readsTo hskip ?_ ?_
  · simp only [List.length_append, List.length_cons]
    omega
  · rw [if_neg (hne rfl), if_neg (not_or.mpr ⟨hne rfl, not_or.mpr ⟨hne rfl, hne rfl⟩⟩),
      ← List.cons_append, ← hct, hentry]

end Draft

end Lines

end PromptRelay.Toml
