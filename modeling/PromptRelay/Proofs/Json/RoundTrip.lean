import Mathlib.Data.List.Perm.Basic
import PromptRelay.Proofs.Json.Tokens

namespace PromptRelay.Json

inductive Value where
  | null
  | bool (b : Bool)
  | number (n : Numeral)
  | string (s : String)
  | array (items : List Value)
  | object (members : List (String × Value))

namespace Value

mutual

def read : ℕ → Cursor → Except Error (Value × Cursor)
  | 0, k => .error (k.error .endInValue)
  | bound + 1, k => do
    let k ← ahead k .endInValue
    match k.peek with
    | 'n' =>
      let k ← k.next.word "ull".toList
      return (.null, k)
    | 't' =>
      let k ← k.next.word "rue".toList
      return (.bool true, k)
    | 'f' =>
      let k ← k.next.word "alse".toList
      return (.bool false, k)
    | '"' =>
      let (s, k) ← Quotation.read k.next
      return (.string s, k)
    | '[' =>
      let (items, k) ← readItems bound true k.next
      return (.array items, k)
    | '{' =>
      let (members, k) ← readMembers bound true k.next
      return (.object members, k)
    | c =>
      if c = '-' || c.isDigit then
        let (n, k) ← Numeral.read k
        return (.number n, k)
      else throw (k.errorAhead .expectedValue)

def readItems : ℕ → Bool → Cursor → Except Error (List Value × Cursor)
  | 0, _, k => .error (k.error .endInList)
  | bound + 1, first, k => do
    let (more, k) ← nextItem first k
    if !more then return ([], k.next)
    let (v, k) ← read bound k
    let (items, k) ← readItems bound false k
    return (v :: items, k)

def readMembers : ℕ → Bool → Cursor → Except Error (List (String × Value) × Cursor)
  | 0, _, k => .error (k.error .endInObject)
  | bound + 1, first, k => do
    let (more, k) ← nextMember first k
    if !more then return ([], k.next)
    let (name, k) ← Quotation.read k.next
    let k ← readColon k
    let (v, k) ← read bound k
    let (members, k) ← readMembers bound false k
    return ((name, v) :: members, k)

end

def parse (s : String) : Except Error Value := do
  let (v, k) ← read s.toList.length (Cursor.start s)
  let k := k.skipBlanks
  if k.rest.isEmpty then return v
  throw (k.errorAhead .trailingCharacters)

end Value

mutual

inductive Denotes : Json → Value → Prop
  | null : Denotes .null .null
  | bool (b : Bool) : Denotes (.bool b) (.bool b)
  | number {v : Json} {n : Numeral} (h : Numeral.IsText v.chars n) : Denotes v (.number n)
  | string (s : String) : Denotes (.string s) (.string s)
  | array {items : List Json} {values : List Value} (h : ItemsDenote items values) :
      Denotes (.array items) (.array values)
  | object {members : List (String × Json)} {fields : List (String × Value)}
      (h : MembersDenote members fields) : Denotes (.object members) (.object fields)

inductive ItemsDenote : List Json → List Value → Prop
  | nil : ItemsDenote [] []
  | cons {v : Json} {w : Value} {items : List Json} {values : List Value} (h : Denotes v w)
      (hrest : ItemsDenote items values) : ItemsDenote (v :: items) (w :: values)

inductive MembersDenote : List (String × Json) → List (String × Value) → Prop
  | nil : MembersDenote [] []
  | cons {name : String} {v : Json} {w : Value} {members : List (String × Json)}
      {fields : List (String × Value)} (h : Denotes v w) (hrest : MembersDenote members fields) :
      MembersDenote ((name, v) :: members) ((name, w) :: fields)

end

def joined (first : Bool) : List (List Char) → List Char
  | [] => []
  | s :: rest => (if first then [] else [',']) ++ (s ++ joined false rest)

theorem separated_eq (texts : List (List Char)) : separated texts = joined true texts := by
  induction texts with
  | nil => rfl
  | cons s texts ih =>
    cases texts with
    | nil => simp [separated, joined]
    | cons t texts =>
      rw [separated, ih]
      · simp [joined]
      · simp

theorem nextItem_end {k : Cursor} {s : List Char} (h : k.rest = ']' :: s) (first : Bool) :
    nextItem first k = .ok (false, k) := by
  rw [nextItem, ahead_eq h rfl]
  simp [Cursor.peek_eq h, bind, Except.bind, pure, Except.pure]

theorem nextItem_more {k : Cursor} {c : Char} {s : List Char} {first : Bool}
    (h : k.rest = (if first then [] else [',']) ++ c :: s) (hblank : Cursor.isBlank c = false)
    (hend : c ≠ ']') : ∃ k', nextItem first k = .ok (true, k') ∧ k'.rest = c :: s := by
  cases first with
  | true =>
    refine ⟨k, ?_, h⟩
    rw [nextItem, ahead_eq h hblank]
    simp [Cursor.peek_eq h, hend, bind, Except.bind, pure, Except.pure]
  | false =>
    have hnext : k.next.rest = c :: s := Cursor.rest_next h
    refine ⟨k.next, ?_, hnext⟩
    rw [nextItem, ahead_eq h rfl]
    simp [Cursor.peek_eq h, ahead_eq hnext hblank, Cursor.peek_eq hnext, hend, bind, Except.bind,
      pure, Except.pure]

theorem nextMember_end {k : Cursor} {s : List Char} (h : k.rest = '}' :: s) (first : Bool) :
    nextMember first k = .ok (false, k) := by
  rw [nextMember, ahead_eq h rfl]
  simp [Cursor.peek_eq h, bind, Except.bind, pure, Except.pure]

theorem nextMember_more {k : Cursor} {s : List Char} {first : Bool}
    (h : k.rest = (if first then [] else [',']) ++ '"' :: s) :
    ∃ k', nextMember first k = .ok (true, k') ∧ k'.rest = '"' :: s := by
  cases first with
  | true =>
    refine ⟨k, ?_, h⟩
    rw [nextMember, ahead_eq h rfl]
    simp [Cursor.peek_eq h, bind, Except.bind, pure, Except.pure]
  | false =>
    have hnext : k.next.rest = '"' :: s := Cursor.rest_next h
    refine ⟨k.next, ?_, hnext⟩
    rw [nextMember, ahead_eq h rfl]
    simp [Cursor.peek_eq h, ahead_eq hnext rfl, Cursor.peek_eq hnext, bind, Except.bind, pure,
      Except.pure]

theorem Denotes.head {v : Json} {w : Value} (h : Denotes v w) :
    ∃ c s, v.chars = c :: s ∧ Cursor.isBlank c = false ∧ c ≠ ']' := by
  cases h with
  | null => exact ⟨_, _, rfl, rfl, by decide⟩
  | bool b => cases b <;> exact ⟨_, _, rfl, rfl, by decide⟩
  | number h =>
    obtain ⟨c, s, hcs, hc⟩ := h.head
    refine ⟨c, s, hcs, ?_, Numeral.ne_of_start hc (by decide) rfl⟩
    simp [Cursor.isBlank, Numeral.ne_of_start hc]
  | string s => exact ⟨_, _, by rw [chars, stringText], rfl, by decide⟩
  | array h => exact ⟨_, _, by rw [chars], rfl, by decide⟩
  | object h => exact ⟨_, _, by rw [chars], rfl, by decide⟩

namespace Value

structure ReadsBack (bound : ℕ) : Prop where
  value {v : Json} {w : Value} (h : Denotes v w) (hbound : v.chars.length ≤ bound)
    {rest : List Char} (hrest : Numeral.Ends rest) : Reads (read bound) v.chars w rest
  items {items : List Json} {values : List Value} (h : ItemsDenote items values) (first : Bool)
    (hbound : (joined first (itemTexts items)).length < bound) (rest : List Char) :
    Reads (readItems bound first) (joined first (itemTexts items) ++ [']']) values rest
  members {members : List (String × Json)} {fields : List (String × Value)}
    (h : MembersDenote members fields) (first : Bool)
    (hbound : (joined first (memberTexts members)).length < bound) (rest : List Char) :
    Reads (readMembers bound first) (joined first (memberTexts members) ++ ['}']) fields rest

theorem ends_joined (texts : List (List Char)) {c : Char} (rest : List Char)
    (hc : c.isDigit = false ∧ c ≠ '.' ∧ c ≠ 'e' ∧ c ≠ 'E') :
    Numeral.Ends (joined false texts ++ c :: rest) := by
  intro d s hd
  cases texts with
  | nil =>
    obtain rfl := (List.cons.inj hd).1
    exact hc
  | cons t texts =>
    obtain rfl : ',' = d := (List.cons.inj hd).1
    decide

theorem readsBack_zero : ReadsBack 0 := by
  constructor
  · intro v w h hbound
    obtain ⟨c, s, hcs, -⟩ := h.head
    simp [hcs] at hbound
  · intro items values h first hbound
    exact absurd hbound (Nat.not_lt_zero _)
  · intro members fields h first hbound
    exact absurd hbound (Nat.not_lt_zero _)

variable {bound : ℕ}

theorem ReadsBack.value_succ (ih : ReadsBack bound) {v : Json} {w : Value} (h : Denotes v w)
    (hbound : v.chars.length ≤ bound + 1) {rest : List Char} (hrest : Numeral.Ends rest) :
    Reads (read (bound + 1)) v.chars w rest := by
  intro k hk
  obtain ⟨c, s, hcs, hblank, -⟩ := h.head
  have hahead : ahead k .endInValue = .ok k := by
    rw [hcs] at hk
    exact ahead_eq hk hblank _
  simp only [read, hahead, bind, Except.bind]
  cases h with
  | null =>
    have hpeek : k.peek = 'n' := Cursor.peek_eq hk
    obtain ⟨k', hword, hk'⟩ := Cursor.exists_word "ull".toList (Cursor.rest_next hk)
    exact ⟨k', by simp only [hpeek, hword, pure, Except.pure], hk'⟩
  | bool b =>
    cases b with
    | true =>
      have hpeek : k.peek = 't' := Cursor.peek_eq hk
      obtain ⟨k', hword, hk'⟩ := Cursor.exists_word "rue".toList (Cursor.rest_next hk)
      exact ⟨k', by simp only [hpeek, hword, pure, Except.pure], hk'⟩
    | false =>
      have hpeek : k.peek = 'f' := Cursor.peek_eq hk
      obtain ⟨k', hword, hk'⟩ := Cursor.exists_word "alse".toList (Cursor.rest_next hk)
      exact ⟨k', by simp only [hpeek, hword, pure, Except.pure], hk'⟩
  | number hn =>
    obtain ⟨k', hread, hk'⟩ := hn.reads rest hrest k hk
    refine ⟨k', ?_, hk'⟩
    obtain ⟨c, s, hcs, hc⟩ := hn.head
    rw [hcs] at hk
    rw [Cursor.peek_eq hk]
    have hdigit : (c = '-' || c.isDigit) = true := by simpa using hc
    split
    case h_7 => simp [hdigit, hread, pure, Except.pure]
    -- No letter, quote or bracket begins a number.
    all_goals exact absurd hdigit (by decide)
  | string s =>
    rw [chars, stringText] at hk
    obtain ⟨k', hread, hk'⟩ := Quotation.read_stringText s rest _ (Cursor.rest_next hk)
    refine ⟨k', ?_, hk'⟩
    simp only [Cursor.peek_eq hk, hread, pure, Except.pure]
  | array h =>
    rw [chars, separated_eq] at hk hbound
    rw [List.length_cons, List.length_append, List.length_singleton] at hbound
    obtain ⟨k', hread, hk'⟩ := ih.items h true (by omega) rest _ (Cursor.rest_next hk)
    refine ⟨k', ?_, hk'⟩
    simp only [Cursor.peek_eq hk, hread, pure, Except.pure]
  | object h =>
    rw [chars, separated_eq] at hk hbound
    rw [List.length_cons, List.length_append, List.length_singleton] at hbound
    obtain ⟨k', hread, hk'⟩ := ih.members h true (by omega) rest _ (Cursor.rest_next hk)
    refine ⟨k', ?_, hk'⟩
    simp only [Cursor.peek_eq hk, hread, pure, Except.pure]

theorem ReadsBack.items_succ (ih : ReadsBack bound) {items : List Json} {values : List Value}
    (h : ItemsDenote items values) (first : Bool)
    (hbound : (joined first (itemTexts items)).length < bound + 1) (rest : List Char) :
    Reads (readItems (bound + 1) first) (joined first (itemTexts items) ++ [']']) values rest := by
  intro k hk
  cases h with
  | nil =>
    refine ⟨k.next, ?_, Cursor.rest_next hk⟩
    simp [readItems, nextItem_end hk, bind, Except.bind, pure, Except.pure]
  | @cons v w items values h hrest =>
    obtain ⟨c, s, hcs, hblank, hend⟩ := h.head
    rw [itemTexts, joined, List.length_append, List.length_append] at hbound
    have hone : 1 ≤ v.chars.length := by simp [hcs]
    have htext : k.rest = (if first then [] else [',']) ++
        (v.chars ++ (joined false (itemTexts items) ++ (']' :: rest))) := by
      simpa [itemTexts, joined] using hk
    rw [hcs, List.cons_append] at htext
    obtain ⟨k₁, hnext, hk₁⟩ := nextItem_more htext hblank hend
    rw [← List.cons_append, ← hcs] at hk₁
    obtain ⟨k₂, hread, hk₂⟩ := ih.value h (by omega) (ends_joined _ _ (by decide)) k₁ hk₁
    obtain ⟨k', hreadItems, hk'⟩ := ih.items hrest false (by omega) rest k₂ (by simpa using hk₂)
    refine ⟨k', ?_, hk'⟩
    simp [readItems, hnext, hread, hreadItems, bind, Except.bind, pure, Except.pure]

theorem ReadsBack.members_succ (ih : ReadsBack bound) {members : List (String × Json)}
    {fields : List (String × Value)} (h : MembersDenote members fields) (first : Bool)
    (hbound : (joined first (memberTexts members)).length < bound + 1) (rest : List Char) :
    Reads (readMembers (bound + 1) first) (joined first (memberTexts members) ++ ['}']) fields
      rest := by
  intro k hk
  cases h with
  | nil =>
    refine ⟨k.next, ?_, Cursor.rest_next hk⟩
    simp [readMembers, nextMember_end hk, bind, Except.bind, pure, Except.pure]
  | @cons name v w members fields h hrest =>
    rw [memberTexts, joined, List.length_append, List.length_append, List.length_append,
      List.length_cons] at hbound
    have htext : k.rest = (if first then [] else [',']) ++ '"' ::
        ((name.toList.flatMap escapeChar ++ ['"']) ++
          ':' :: (v.chars ++ (joined false (memberTexts members) ++ ('}' :: rest)))) := by
      simpa [memberTexts, joined, stringText] using hk
    obtain ⟨k₁, hnext, hk₁⟩ := nextMember_more htext
    obtain ⟨k₂, hname, hk₂⟩ := Quotation.read_stringText name _ _ (Cursor.rest_next hk₁)
    have hk₃ := Cursor.rest_next hk₂
    obtain ⟨k₄, hread, hk₄⟩ := ih.value h (by omega) (ends_joined _ _ (by decide)) _ hk₃
    obtain ⟨k', hreadMembers, hk'⟩ := ih.members hrest false (by omega) rest k₄ (by simpa using hk₄)
    refine ⟨k', ?_, hk'⟩
    simp [readMembers, hnext, hname, readColon_eq hk₂, hread, hreadMembers, bind, Except.bind,
      pure, Except.pure]

theorem readsBack (bound : ℕ) : ReadsBack bound := by
  induction bound with
  | zero => exact readsBack_zero
  | succ bound ih => exact ⟨ih.value_succ, ih.items_succ, ih.members_succ⟩

theorem parse_text {v : Json} {w : Value} (h : Denotes v w) : parse v.text = .ok w := by
  have hstart : (Cursor.start v.text).rest = v.chars ++ [] := by
    rw [List.append_nil, Cursor.start, text, String.toList_ofList]
  have hlength : v.chars.length ≤ v.text.toList.length := by
    rw [text, String.toList_ofList]
  have hends : Numeral.Ends [] := fun c s h => by cases h
  obtain ⟨k', hread, hk'⟩ := (readsBack _).value h hlength hends _ hstart
  have hblanks : k'.skipBlanks.rest = [] := by
    rw [Cursor.skipBlanks, Cursor.rest_skip, hk']
    rfl
  simp [parse, hread, hblanks, bind, Except.bind, pure, Except.pure]

end Value

theorem isPrintable_joined {texts : List (List Char)} (first : Bool)
    (h : ∀ text ∈ texts, IsPrintable text) : IsPrintable (joined first texts) := by
  induction texts generalizing first with
  | nil => exact List.forall_mem_nil _
  | cons text texts ih =>
    rw [List.forall_mem_cons] at h
    rw [joined, isPrintable_append, isPrintable_append]
    refine ⟨?_, h.1, ih false h.2⟩
    cases first <;> decide

theorem isPrintable_object {members : List (String × Json)}
    (h : ∀ m ∈ members, IsPrintable m.2.chars) : IsPrintable (object members).chars := by
  have htexts : ∀ text ∈ memberTexts members, IsPrintable text := by
    induction members with
    | nil => exact List.forall_mem_nil _
    | cons m members ih =>
      rw [List.forall_mem_cons] at h
      rw [memberTexts, List.forall_mem_cons, isPrintable_append, isPrintable_cons]
      exact ⟨⟨isPrintable_stringText m.1, by decide, h.1⟩, ih h.2⟩
  rw [chars, separated_eq, isPrintable_cons, isPrintable_append]
  exact ⟨by decide, isPrintable_joined true htexts, by decide⟩

theorem membersDenote_iff {members : List (String × Json)} {fields : List (String × Value)} :
    MembersDenote members fields ↔
      List.Forall₂ (fun m f => m.1 = f.1 ∧ Denotes m.2 f.2) members fields := by
  constructor
  · intro h
    induction members generalizing fields with
    | nil =>
      cases h
      exact .nil
    | cons m members ih =>
      cases h with
      | cons h hrest => exact .cons ⟨rfl, h⟩ (ih hrest)
  · intro h
    induction h with
    | nil => exact .nil
    | @cons m f _ _ hfirst _ ih =>
      obtain ⟨name, v⟩ := m
      obtain ⟨name', w⟩ := f
      obtain ⟨rfl, hv⟩ := hfirst
      exact .cons hv ih

theorem MembersDenote.append {xs ys : List (String × Json)} {us vs : List (String × Value)}
    (h : MembersDenote xs us) (h' : MembersDenote ys vs) : MembersDenote (xs ++ ys) (us ++ vs) :=
  membersDenote_iff.mpr (List.rel_append (membersDenote_iff.mp h) (membersDenote_iff.mp h'))

theorem MembersDenote.of_perm {members sorted : List (String × Json)}
    {fields : List (String × Value)} (h : MembersDenote members fields)
    (hperm : sorted.Perm members) :
    ∃ fields', MembersDenote sorted fields' ∧ fields'.Perm fields := by
  obtain ⟨fields', hdenote, hfields⟩ :=
    List.perm_comp_forall₂ hperm (membersDenote_iff.mp h)
  exact ⟨fields', membersDenote_iff.mpr hdenote, hfields⟩

end PromptRelay.Json
