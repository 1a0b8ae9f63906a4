import PromptRelay.Proofs.Utf8.SequenceTable

/-!
Lenient decoding of bytes that are known as a whole, and the decoder that gets them in pieces. The
decoder gives the same characters and holds the same bytes back, wherever the pieces are cut.
-/

namespace PromptRelay.Utf8

def character? (bs : List UInt8) : Option Char :=
  if IsWellFormed bs then bs.toByteArray.utf8DecodeChar? 0 else none

def front? (bs : List UInt8) : Option Char :=
  [1, 2, 3, 4].findSome? fun n => character? (bs.take n)

/-- How many bytes in front belong to no character: all that begin a sequence, one at least. -/
def strayLength (bs : List UInt8) : ℕ :=
  max 1 (Nat.findGreatest (fun n => IsBeginning (bs.take n)) bs.length)

/-- The characters of some bytes and the bytes held back: from left to right, a well-formed
sequence is a character, the beginning of one is held back if nothing follows it, and other bytes
are dropped. -/
def lenient (bs : List UInt8) : List Char × List UInt8 :=
  if _h : bs = [] then ([], [])
  else match front? bs with
    | some c =>
      let (s, held) := lenient (bs.drop c.utf8Size)
      (c :: s, held)
    | none => if IsBeginning bs then ([], bs) else lenient (bs.drop (strayLength bs))
termination_by bs.length
decreasing_by
  all_goals
    have hpos := List.length_pos_iff.mpr _h
    rw [List.length_drop]
  · have := c.utf8Size_pos
    omega
  · have : 1 ≤ strayLength bs := Nat.le_max_left _ _
    omega

theorem character?_eq_some_iff {bs : List UInt8} {c : Char} :
    character? bs = some c ↔ String.utf8EncodeChar c = bs := by
  have hdecode (d : Char) : (String.utf8EncodeChar d).toByteArray.utf8DecodeChar? 0 = some d := by
    simpa using ByteArray.utf8DecodeChar?_utf8EncodeChar_append (b := ∅) (c := d)
  unfold character?
  constructor
  · intro h
    split_ifs at h with hw
    obtain ⟨d, rfl⟩ := (isWellFormed_iff bs).mp hw
    rw [hdecode] at h
    rw [Option.some.inj h]
  · rintro rfl
    rw [if_pos (isWellFormed_utf8EncodeChar c), hdecode]

theorem front?_eq_some {bs : List UInt8} {c : Char} (h : front? bs = some c) :
    String.utf8EncodeChar c <+: bs := by
  obtain ⟨n, _, hn⟩ := List.exists_of_findSome?_eq_some h
  rw [character?_eq_some_iff] at hn
  rw [hn]
  exact List.take_prefix n bs

theorem eq_of_utf8EncodeChar_append {c d : Char} {xs ys : List UInt8}
    (h : String.utf8EncodeChar c ++ xs = String.utf8EncodeChar d ++ ys) : c = d := by
  have hc := ByteArray.utf8DecodeChar?_utf8EncodeChar_append (b := xs.toByteArray) (c := c)
  rw [← List.toByteArray_append, h, List.toByteArray_append,
    ByteArray.utf8DecodeChar?_utf8EncodeChar_append] at hc
  exact (Option.some.inj hc).symm

theorem front?_utf8EncodeChar_append (c : Char) (bs : List UInt8) :
    front? (String.utf8EncodeChar c ++ bs) = some c := by
  have hsome : (front? (String.utf8EncodeChar c ++ bs)).isSome := by
    have hlen : c.utf8Size ∈ [1, 2, 3, 4] := by
      have := c.utf8Size_pos
      have := c.utf8Size_le_four
      simp only [List.mem_cons, List.not_mem_nil, or_false]
      omega
    apply List.findSome?_isSome_iff.mpr
    refine ⟨c.utf8Size, hlen, ?_⟩
    rw [List.take_left' (String.length_utf8EncodeChar c), character?_eq_some_iff.mpr rfl]
    rfl
  obtain ⟨d, hd⟩ := Option.isSome_iff_exists.mp hsome
  obtain ⟨ys, hys⟩ := front?_eq_some hd
  rw [hd, eq_of_utf8EncodeChar_append hys]

theorem IsBeginning.front? {bs : List UInt8} (h : IsBeginning bs) : front? bs = none := by
  cases hf : Utf8.front? bs with
  | none => rfl
  | some c =>
    obtain ⟨rest, rfl⟩ := front?_eq_some hf
    have hc := h.of_append String.utf8EncodeChar_ne_nil
    exact absurd (isWellFormed_utf8EncodeChar c) hc.not_isWellFormed

theorem lenient_nil : lenient [] = ([], []) := by
  rw [lenient, dif_pos rfl]

theorem lenient_utf8EncodeChar_append (c : Char) (bs : List UInt8) :
    lenient (String.utf8EncodeChar c ++ bs) = (c :: (lenient bs).1, (lenient bs).2) := by
  have hne : String.utf8EncodeChar c ++ bs ≠ [] := by simp
  rw [lenient, dif_neg hne, front?_utf8EncodeChar_append]
  simp only [List.drop_left' (String.length_utf8EncodeChar c)]

theorem lenient_of_isBeginning {bs : List UInt8} (h : IsBeginning bs) :
    lenient bs = ([], bs) := by
  rw [lenient, dif_neg h.1, h.front?]
  simp only [if_pos h]

section Stray

variable {held : List UInt8} {b : UInt8} (bs : List UInt8)

theorem append_of_prefix {xs : List UInt8} (h : xs <+: held ++ b :: bs)
    (hlen : held.length < xs.length) : ∃ ys, xs = held ++ [b] ++ ys := by
  have hb : held ++ [b] <+: held ++ b :: bs := ⟨bs, by simp⟩
  obtain ⟨ys, hys⟩ := List.prefix_of_prefix_length_le hb h (by simp; omega)
  exact ⟨ys, hys.symm⟩

variable (hbroken : shape (held ++ [b]) = .broken)
include hbroken

theorem not_isBeginning_of_stray {xs : List UInt8} (h : xs <+: held ++ b :: bs)
    (hlen : held.length < xs.length) : ¬IsBeginning xs := by
  obtain ⟨ys, rfl⟩ := append_of_prefix bs h hlen
  intro hx
  exact ((shape_eq_broken_iff _).mp hbroken).2 (hx.of_append (by simp))

variable (hheld : held = [] ∨ IsBeginning held)
include hheld

theorem front?_of_stray : front? (held ++ b :: bs) = none := by
  cases hf : front? (held ++ b :: bs) with
  | none => rfl
  | some c =>
    have hw := isWellFormed_utf8EncodeChar c
    have hpre := front?_eq_some hf
    rcases Nat.lt_or_ge held.length (String.utf8EncodeChar c).length with hlt | hge
    · -- The sequence would take in the broken byte.
      obtain ⟨ys, hys⟩ := append_of_prefix bs hpre hlt
      rw [hys] at hw
      obtain ⟨hnot, hnot'⟩ := (shape_eq_broken_iff _).mp hbroken
      cases ys with
      | nil => exact absurd (by simpa using hw) hnot
      | cons y ys => exact absurd (hw.isBeginning (by simp) (by simp)) hnot'
    · -- It would lie within what is only a beginning.
      obtain ⟨ys, hys⟩ := List.prefix_of_prefix_length_le hpre (List.prefix_append _ _) hge
      rcases hheld with rfl | hbegin
      · simp at hys
      · rw [← hys] at hbegin
        exact absurd hw (hbegin.of_append String.utf8EncodeChar_ne_nil).not_isWellFormed

theorem strayLength_of_stray : strayLength (held ++ b :: bs) = max 1 held.length := by
  unfold strayLength
  congr 1
  rw [Nat.findGreatest_eq_iff]
  refine ⟨by simp, ?_, ?_⟩
  · intro hne
    rw [List.take_left]
    exact hheld.resolve_left (by simpa using hne)
  · intro n hn hle
    apply not_isBeginning_of_stray bs hbroken (List.take_prefix _ _)
    rw [List.length_take]
    omega

theorem lenient_of_stray :
    lenient (held ++ b :: bs) = lenient ((held ++ b :: bs).drop (max 1 held.length)) := by
  have hne : held ++ b :: bs ≠ [] := by simp
  have hnot : ¬IsBeginning (held ++ b :: bs) :=
    not_isBeginning_of_stray bs hbroken (List.prefix_refl _) (by simp)
  rw [lenient, dif_neg hne, front?_of_stray bs hbroken hheld]
  simp only [if_neg hnot, strayLength_of_stray bs hbroken hheld]

end Stray

namespace Decoder

def IsSound (d : Decoder) : Prop :=
  d.held = [] ∨ IsBeginning d.held

theorem isSound_empty : ({} : Decoder).IsSound :=
  .inl rfl

theorem step_of_whole {d : Decoder} {b : UInt8} {c : Char}
    (h : shape (d.held ++ [b]) = .whole c) : d.step b = ([c], {}) := by
  simp [step, h]

theorem step_of_start {d : Decoder} {b : UInt8} (h : shape (d.held ++ [b]) = .start) :
    d.step b = ([], ⟨d.held ++ [b]⟩) := by
  simp [step, h]

theorem step_of_broken {d : Decoder} {b : UInt8} (h : shape (d.held ++ [b]) = .broken) :
    d.step b = ({} : Decoder).step b := by
  simp only [step, h, fresh, List.nil_append]
  cases shape [b] <;> rfl

theorem step_empty_of_broken {b : UInt8} (h : shape [b] = .broken) :
    ({} : Decoder).step b = ([], {}) := by
  simp [step, fresh, h]

theorem isSound_step_empty (b : UInt8) : (({} : Decoder).step b).2.IsSound := by
  cases hs : shape (({} : Decoder).held ++ [b]) with
  | whole c => rw [step_of_whole hs]; exact isSound_empty
  | start => rw [step_of_start hs]; exact .inr ((shape_eq_start_iff _).mp hs)
  | broken => rw [step_empty_of_broken hs]; exact isSound_empty

theorem isSound_step (d : Decoder) (b : UInt8) : (d.step b).2.IsSound := by
  cases hs : shape (d.held ++ [b]) with
  | whole c => rw [step_of_whole hs]; exact isSound_empty
  | start => rw [step_of_start hs]; exact .inr ((shape_eq_start_iff _).mp hs)
  | broken => rw [step_of_broken hs]; exact isSound_step_empty b

def future (d : Decoder) (bs : List UInt8) : List Char × Decoder :=
  ((lenient (d.held ++ bs)).1, ⟨(lenient (d.held ++ bs)).2⟩)

theorem future_of_whole {d : Decoder} {b : UInt8} {c : Char} (bs : List UInt8)
    (h : shape (d.held ++ [b]) = .whole c) :
    d.future (b :: bs) = (c :: (({} : Decoder).future bs).1, (({} : Decoder).future bs).2) := by
  have hbytes : d.held ++ b :: bs = String.utf8EncodeChar c ++ bs := by
    rw [(shape_eq_whole_iff _ _).mp h, List.append_assoc, List.singleton_append]
  simp only [future, hbytes, lenient_utf8EncodeChar_append, List.nil_append]

theorem future_cons_empty (b : UInt8) (bs : List UInt8) :
    ({} : Decoder).future (b :: bs) =
      ((({} : Decoder).step b).1 ++ ((({} : Decoder).step b).2.future bs).1,
        ((({} : Decoder).step b).2.future bs).2) := by
  cases hs : shape (({} : Decoder).held ++ [b]) with
  | whole c => rw [future_of_whole bs hs, step_of_whole hs]; rfl
  | start => rw [step_of_start hs]; rfl
  | broken =>
    have hdrop := lenient_of_stray bs hs (.inl rfl)
    rw [step_empty_of_broken hs]
    simp only [future, List.nil_append] at hdrop ⊢
    rw [hdrop]
    rfl

theorem future_cons {d : Decoder} (hd : d.IsSound) (b : UInt8) (bs : List UInt8) :
    d.future (b :: bs) =
      ((d.step b).1 ++ ((d.step b).2.future bs).1, ((d.step b).2.future bs).2) := by
  cases hs : shape (d.held ++ [b]) with
  | whole c => rw [future_of_whole bs hs, step_of_whole hs]; rfl
  | start => rw [step_of_start hs]; simp [future]
  | broken =>
    rcases hd with hd | hd
    · obtain rfl : d = {} := congrArg Decoder.mk hd
      exact future_cons_empty b bs
    · -- What was held is dropped, and the byte is looked at afresh.
      have hlen : max 1 d.held.length = d.held.length :=
        Nat.max_eq_right (List.length_pos_iff.mpr hd.1)
      have hdrop := lenient_of_stray bs hs (.inr hd)
      rw [hlen, List.drop_left] at hdrop
      rw [step_of_broken hs, ← future_cons_empty b bs]
      simp only [future, hdrop, List.nil_append]

theorem feed_eq_future {d : Decoder} (hd : d.IsSound) (bs : List UInt8) :
    d.feed bs = d.future bs := by
  induction bs generalizing d with
  | nil =>
    rcases hd with hd | hd
    · obtain rfl : d = {} := congrArg Decoder.mk hd
      simp [feed, future, lenient_nil]
    · simp [feed, future, lenient_of_isBeginning hd]
  | cons b bs ih => simp only [feed, future_cons hd, ih (isSound_step d b)]

theorem isSound_feed {d : Decoder} (hd : d.IsSound) (bs : List UInt8) : (d.feed bs).2.IsSound := by
  induction bs generalizing d with
  | nil => exact hd
  | cons b bs ih => exact ih (isSound_step d b)

theorem feed_empty (bs : List UInt8) :
    ({} : Decoder).feed bs = ((lenient bs).1, ⟨(lenient bs).2⟩) := by
  rw [feed_eq_future isSound_empty]
  simp only [future, List.nil_append]

theorem lenient_append (bs piece : List UInt8) :
    (lenient (bs ++ piece)).1 =
        (lenient bs).1 ++ ((⟨(lenient bs).2⟩ : Decoder).feed piece).1 ∧
      ((⟨(lenient bs).2⟩ : Decoder).feed piece).2 = ⟨(lenient (bs ++ piece)).2⟩ := by
  have hall := feed_append {} bs piece
  rw [feed_empty, feed_empty] at hall
  exact ⟨congrArg Prod.fst hall, (congrArg Prod.snd hall).symm⟩

def feedEach (d : Decoder) : List (List UInt8) → List (List Char) × Decoder
  | [] => ([], d)
  | piece :: pieces =>
    let (text, d) := d.feed piece
    let (texts, d) := d.feedEach pieces
    (text :: texts, d)

theorem feedEach_eq_feed (d : Decoder) (pieces : List (List UInt8)) :
    (d.feedEach pieces).1.flatten = (d.feed pieces.flatten).1 ∧
      (d.feedEach pieces).2 = (d.feed pieces.flatten).2 := by
  induction pieces generalizing d with
  | nil => simp [feedEach, feed]
  | cons piece pieces ih => simp [feedEach, feed_append, ih]

theorem feedEach_eq_lenient (pieces : List (List UInt8)) :
    ((({} : Decoder).feedEach pieces).1.flatten, (({} : Decoder).feedEach pieces).2.held) =
        lenient pieces.flatten ∧
      let d := (({} : Decoder).feedEach pieces).2
      d.held.length ≤ 3 ∧ (d.isWaiting = true ↔ d.held ≠ []) := by
  obtain ⟨htexts, hlast⟩ := feedEach_eq_feed {} pieces
  have hsound := isSound_feed isSound_empty pieces.flatten
  rw [← hlast] at hsound
  refine ⟨?_, ?_, by simp [isWaiting]⟩
  · rw [htexts, hlast, feed_empty]
  · rcases hsound with hnil | hbegin
    · rw [hnil]
      exact Nat.zero_le 3
    · exact hbegin.length_le

end Decoder

theorem lenient_encode (s : List Char) : lenient (encode s) = (s, []) := by
  induction s with
  | nil => exact lenient_nil
  | cons c s ih =>
    have hcons : encode (c :: s) = String.utf8EncodeChar c ++ encode s := List.flatMap_cons
    rw [hcons, lenient_utf8EncodeChar_append, ih]

theorem decode?_encode (s : List Char) : decode? (encode s) = some s := by
  simp [decode?, Decoder.feed_empty, lenient_encode]

end PromptRelay.Utf8
