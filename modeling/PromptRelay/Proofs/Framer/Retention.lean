import Mathlib.Data.List.DropRight
import Mathlib.Data.List.Infix
import PromptRelay.Proofs.Framer.Resumption

/-!
What a framer holds of the text that has come: of noise, the shortest end that may hold all of a
mark but one character; of a query, what has come since the last mark.
-/

namespace PromptRelay

open Text
open Utf8 (size)

def sinceFrame (s : List Char) : List Char :=
  ((endedLines s).rtakeWhile fun line => (afterMark? line).isNone).flatMap (· ++ ['\n']) ++
    openLine s

def EndsFrame (s : List Char) : Prop :=
  s = [] ∨ ∃ x raw, s = x ++ (mark ++ raw) ++ ['\n'] ∧ '\n' ∉ raw

theorem openLine_cons_suffix (c : Char) (s : List Char) : openLine s <:+ openLine (c :: s) := by
  by_cases hs : '\n' ∈ s
  · obtain ⟨line, rest, rfl, -⟩ := List.eq_append_cons_of_mem hs
    rw [openLine_append_newline, ← List.cons_append, openLine_append_newline]
  by_cases hc : c = '\n'
  · subst hc
    have h := openLine_append_newline [] s
    rw [List.nil_append] at h
    rw [h]
  · have hall : '\n' ∉ c :: s := by simp [hs, Ne.symm hc]
    rw [openLine_of_not_mem hs, openLine_of_not_mem hall]
    exact List.suffix_cons c s

theorem openLine_suffix (x s : List Char) : openLine s <:+ openLine (x ++ s) := by
  induction x with
  | nil => exact List.suffix_refl _
  | cons c x ih => exact ih.trans (openLine_cons_suffix c (x ++ s))

theorem joined_lines (s : List Char) :
    (endedLines s).flatMap (· ++ ['\n']) ++ openLine s = s := by
  induction hlen : s.length using Nat.strong_induction_on generalizing s with
  | _ n ih =>
    by_cases hs : '\n' ∈ s
    · obtain ⟨line, rest, rfl, hline⟩ := List.eq_append_cons_of_mem hs
      have hrest := ih rest.length (by simp [← hlen]; omega) rest rfl
      rw [endedLines_newline rest hline, openLine_append_newline, List.flatMap_cons]
      simp [hrest]
    · rw [endedLines_of_not_mem hs, openLine_of_not_mem hs]
      rfl

theorem rtakeWhile_append_cons {α : Type} {p : α → Bool} {a : α} (xs : List α) {ys : List α}
    (ha : ¬p a = true) (hys : ∀ y ∈ ys, p y = true) : (xs ++ a :: ys).rtakeWhile p = ys := by
  have hreverse : (xs ++ a :: ys).reverse = ys.reverse ++ a :: xs.reverse := by simp
  rw [List.rtakeWhile, hreverse, List.takeWhile_append_of_pos (by simpa using hys),
    List.takeWhile_cons_of_neg ha]
  simp

theorem sinceFrame_append {before s : List Char} (hbefore : EndsFrame before)
    (hfree : MarkFree s []) : sinceFrame (before ++ s) = s := by
  have hnone := (lineFrames_append_of_markFree hfree).1
  rw [List.append_nil] at hnone
  have hlines : ∀ line ∈ endedLines s, (afterMark? line).isNone = true := by
    intro line hline
    have hframe := List.filterMap_eq_nil_iff.mp hnone line hline
    simpa [lineFrame?] using hframe
  have hall := List.rtakeWhile_eq_self_iff.mpr hlines
  rcases hbefore with rfl | ⟨x, raw, rfl, hraw⟩
  · rw [List.nil_append, sinceFrame, hall, joined_lines]
  · have hline : '\n' ∉ mark ++ raw := by simp [newline_not_mem_mark, hraw]
    have hsuffix := openLine_suffix x (mark ++ raw)
    rw [openLine_of_not_mem hline] at hsuffix
    have hmarked : mark <:+: openLine (x ++ (mark ++ raw)) :=
      (List.prefix_append mark raw).isInfix.trans hsuffix.isInfix
    have hstop : ¬(afterMark? (openLine (x ++ (mark ++ raw)))).isNone = true := by
      rw [Option.isNone_iff_eq_none, afterMark?_eq_none_iff, not_not]
      exact hmarked
    have hsplit : x ++ (mark ++ raw) ++ ['\n'] ++ s = x ++ (mark ++ raw) ++ '\n' :: s := by simp
    have hlast := rtakeWhile_append_cons (p := fun line => (afterMark? line).isNone)
      (endedLines (x ++ (mark ++ raw))) hstop hlines
    rw [hsplit, sinceFrame, endedLines_append_newline, openLine_append_newline, hlast, joined_lines]

/-- What has come is `received`, of which `back` is held in reverse, and `s` comes next. Of noise,
`lead` has been dropped. -/
inductive Awaits (received : List Char) : Bool → List Char → List Char → Prop where
  | noise {before lead back s : List Char} (hbefore : EndsFrame before)
      (hsplit : received = before ++ (lead ++ back.reverse))
      (hfree : MarkFree (lead ++ back.reverse) s)
      (hlong : lead = [] ∨ mark.length - 1 ≤ size (back.reverse ++ s)) :
      Awaits received false back s
  | query {before back s : List Char} (hsplit : received = before ++ (mark ++ back.reverse))
      (hline : '\n' ∉ back) : Awaits received true back s

theorem MarkFree.append_left {x y s : List Char} (hx : MarkFree x (y ++ s)) (hy : MarkFree y s) :
    MarkFree (x ++ y) s := by
  induction x with
  | nil => exact hy
  | cons c x ih =>
    obtain ⟨hc, hx⟩ := free_cons_iff.mp hx
    rw [← List.append_assoc] at hc
    exact free_cons_iff.mpr ⟨hc, ih hx⟩

theorem Awaits.scan {received back s : List Char} {pending : Bool}
    (h : Awaits received pending back s) :
    Awaits (received ++ s) (Framer.scan pending back 0 s).2.1
      (Framer.scan pending back 0 s).2.2 [] := by
  induction hlen : s.length using Nat.strong_induction_on generalizing received pending back s with
  | _ n ih =>
    rcases search_cases pending s with ⟨hfree, hline⟩ | ⟨y, z, rfl, hfree, hline⟩ |
      ⟨rfl, y, z, rfl, hfree, hline⟩
    · rw [Framer.scan_through back hfree hline]
      cases h with
      | @noise before lead _ _ hbefore hsplit hlead hlong =>
        refine @Awaits.noise _ before lead _ _ hbefore ?_ ?_ ?_
        · simp [hsplit]
        · have hall := MarkFree.append_left (by simpa using hlead) hfree
          simpa using hall
        · simpa using hlong
      | @query before _ _ hsplit hback =>
        refine @Awaits.query _ before _ _ ?_ ?_
        · simp [hsplit]
        · simp [hback, hline rfl]
    · have hshorter : z.length < n := by simp [← hlen, mark]; omega
      have hnext : Awaits (received ++ (y ++ mark)) true [] z :=
        @Awaits.query _ (received ++ y) [] z (by simp) List.not_mem_nil
      have hlast := ih z.length hshorter hnext rfl
      rw [Framer.scan_to_mark back hfree hline]
      simpa using hlast
    · have hshorter : z.length < n := by simp [← hlen]; omega
      cases h with
      | @query before _ _ hsplit hback =>
        have hended : EndsFrame (received ++ (y ++ ['\n'])) := by
          refine .inr ⟨before, back.reverse ++ y, by simp [hsplit], ?_⟩
          simp [hback, hline]
        have hnext : Awaits (received ++ (y ++ ['\n'])) false [] z :=
          @Awaits.noise _ _ [] [] z hended (by simp) (markFree_nil _) (.inl rfl)
        have hlast := ih z.length hshorter hnext rfl
        rw [Framer.scan_to_newline back hfree hline]
        simpa using hlast

namespace Framer

structure Retains (f : Framer) (received : List Char) : Prop where
  follows : f.Follows received
  settled : f.IsSettled
  awaits : ∃ start, received = start ++ f.window ∧
    ∀ next, Awaits start f.isPending f.searched (f.window ++ next)
  noise : f.isPending = false → f.searched = [] ∧ size f.buffered ≤ mark.length + 2 ∧
    IsShortestTail (mark.length - 1) f.buffered (sinceFrame received)

theorem awaits_settle {received back : List Char} {pending : Bool}
    (h : Awaits received pending back []) :
    ∃ start, received = start ++ (settle pending back).window ∧ ∀ next, Awaits start pending
      (settle pending back).searched ((settle pending back).window ++ next) := by
  cases h with
  | @noise before lead _ _ hbefore hsplit hfree hlong =>
    rw [List.append_nil] at hlong
    obtain ⟨x, hx, -, -⟩ := exists_settled hfree.right
    -- Of the noise, all that is dropped is before a window that holds nearly a mark.
    have hroom : lead ++ x = [] ∨
        mark.length - 1 ≤ size (reachBytes (mark.length - 1) back).reverse := by
      rw [size_reverse] at hlong ⊢
      rcases reachBytes_eq_or_le (mark.length - 1) back with hall | hle
      · rw [hall] at hx ⊢
        have hnil : x = [] := by simpa using hx
        exact hlong.imp (by simp [hnil]) id
      · exact .inr hle
    refine ⟨before ++ (lead ++ x), ?_, fun next => ?_⟩
    · rw [hsplit, hx]
      simp [settle]
    · refine @Awaits.noise _ before (lead ++ x) _ _ hbefore ?_ ?_ ?_
      · simp [settle]
      · rcases hroom with hnil | hle
        · simpa [settle, hnil] using markFree_nil _
        · rw [hx, ← List.append_assoc] at hfree
          have hlead := hfree.of_size (by omega) next
          simpa [settle] using hlead
      · apply hroom.imp id
        intro hle
        simp only [settle, size_append]
        omega
  | @query before _ _ hsplit hline =>
    obtain ⟨x, hx, hdrop, hback⟩ := exists_reachBytes_append (mark.length - 1) back
    refine ⟨before ++ (mark ++ x.reverse), ?_, fun next => ?_⟩
    · rw [hsplit, hback]
      simp [settle]
    · have hstart : '\n' ∉ x := by
        rw [hx, List.mem_append, not_or] at hline
        exact hline.2
      refine @Awaits.query _ before _ _ ?_ ?_
      · simp [settle, hdrop]
      · simpa [settle, hdrop] using hstart

theorem isShortestTail_settle {received back : List Char} (h : Awaits received false back []) :
    IsShortestTail (mark.length - 1) (settle false back).buffered (sinceFrame received) := by
  have htail := isShortestTail_reachBytes (mark.length - 1) back
  cases h with
  | noise hbefore hsplit hfree hlong =>
    rw [List.append_nil] at hlong
    rw [hsplit, sinceFrame_append hbefore hfree]
    exact htail.append_left hlong

theorem size_settle_le (back : List Char) :
    size (settle false back).buffered ≤ mark.length + 2 := by
  have hsize := size_reachBytes_le (mark.length - 1) back
  have hmark : mark.length = 7 := rfl
  have hbuffered : (settle false back).buffered =
      (reachBytes (mark.length - 1) back).reverse := rfl
  rw [hbuffered, size_reverse]
  omega

theorem retains_settle {received back : List Char} {pending : Bool}
    (hfollows : (settle pending back).Follows received) (h : Awaits received pending back []) :
    (settle pending back).Retains received where
  follows := hfollows
  settled := isSettled_settle pending back
  awaits := awaits_settle h
  noise hpending := by
    obtain rfl : pending = false := hpending
    exact ⟨rfl, size_settle_le back, isShortestTail_settle h⟩

theorem retains_empty : ({} : Framer).Retains [] where
  follows := follows_empty
  settled := .inl rfl
  awaits := ⟨[], rfl, fun next =>
    @Awaits.noise _ [] [] [] next (.inl rfl) rfl (markFree_nil next) (.inl rfl)⟩
  noise _ := by
    have hnone : sinceFrame [] = [] := sinceFrame_append (.inl rfl) (markFree_nil [])
    rw [hnone]
    refine ⟨rfl, Nat.zero_le _, List.suffix_refl [], by simp [size], ?_⟩
    exact fun t _ _ => Nat.zero_le _

theorem Retains.push {f : Framer} {received : List Char} (h : f.Retains received)
    (fragment : List Char) : (f.push fragment).2.Retains (received ++ fragment) := by
  obtain ⟨-, hfollows⟩ := h.follows.push fragment
  obtain ⟨start, rfl, hawaits⟩ := h.awaits
  have hscan := (hawaits fragment).scan
  rw [push_eq] at hfollows ⊢
  rw [← List.append_assoc] at hscan
  exact retains_settle hfollows hscan

end Framer

structure Buffer.Sound (b : Buffer) (received : List Char) : Prop where
  within : b.resumeAt ≤ size b.text
  boundary : IsBoundary b.text b.resumeAt
  noise : b.isPending = false → b.resumeAt = 0 ∧ ¬mark <:+: b.text ∧ size b.text ≤ 9 ∧
    IsShortestTail 6 b.text (sinceFrame received)
  query : b.isPending = true → ¬mark <:+: b.text ∧ '\n' ∉ b.text

/-- Behind the byte where the next search goes on, the first mark and the first line feed are those
of the whole text. -/
def Buffer.FindsAll (b : Buffer) (next : List Char) : Prop :=
  ∃ searched rest, cut? b.resumeAt (b.text ++ next) = some (searched, rest) ∧
    ∀ pattern ∈ [mark, ['\n']],
      offset? pattern (b.text ++ next) = (offset? pattern rest).map (· + b.resumeAt)

namespace Framer

theorem Retains.sound {f : Framer} {received : List Char} (h : f.Retains received) :
    f.buffer.Sound received := by
  have hclean : ¬mark <:+: f.buffered := by
    rw [← afterMark?_eq_none_iff]
    exact h.follows.clean.afterMark?
  refine ⟨?_, isBoundary_iff.mpr ⟨f.searched.reverse, f.window, rfl, size_reverse _⟩, ?_, ?_⟩
  · simp [buffer, buffered, size_append, size_reverse]
  · intro hp
    obtain ⟨hnil, hsize, htail⟩ := h.noise hp
    exact ⟨by simp [buffer, hnil, size], hclean, hsize, htail⟩
  · exact fun hp => ⟨hclean, h.follows.line hp⟩

theorem Retains.findsAll {f : Framer} {received : List Char} (h : f.Retains received)
    (next : List Char) : f.buffer.FindsAll next := by
  have hcut := cut?_append f.searched.reverse (f.window ++ next)
  rw [size_reverse, ← List.append_assoc] at hcut
  refine ⟨f.searched.reverse, f.window ++ next, hcut, ?_⟩
  have hfound {pattern : List Char} (hfree : Free pattern f.searched.reverse (f.window ++ next)) :
      offset? pattern (f.buffer.text ++ next) =
        (offset? pattern (f.window ++ next)).map (· + f.buffer.resumeAt) := by
    have hall := offset?_append hfree
    rw [size_reverse, ← List.append_assoc] at hall
    exact hall
  have hline : '\n' ∉ f.searched.reverse := by
    cases hp : f.isPending with
    | false => simp [(h.noise hp).1]
    | true => exact fun hmem => h.follows.line hp (List.mem_append_left _ hmem)
  intro pattern hpattern
  rcases List.mem_pair.mp hpattern with rfl | rfl
  · exact hfound (h.follows.free next)
  · exact hfound (free_singleton_iff.mpr hline)

theorem Retains.pushEach? {f : Framer} {received : List Char} (h : f.Retains received)
    (fragments : List (List Char)) :
    f.buffer.pushEach? fragments =
        some ((f.pushEach fragments).1, (f.pushEach fragments).2.buffer) ∧
      (f.pushEach fragments).2.Retains (received ++ fragments.flatten) := by
  induction fragments generalizing f received with
  | nil => simpa [pushEach, Buffer.pushEach?] using h
  | cons fragment fragments ih =>
    obtain ⟨hrest, hlast⟩ := ih (h.push fragment)
    have hfirst := h.settled.push? fragment
    rw [List.append_assoc] at hlast
    refine ⟨?_, hlast⟩
    simp [Buffer.pushEach?, hfirst, hrest, pushEach]

theorem pushEach?_sound (fragments : List (List Char)) :
    ∃ b, ({} : Buffer).pushEach? fragments = some ((({} : Framer).pushEach fragments).1, b) ∧
      b = (({} : Framer).pushEach fragments).2.buffer ∧ b.Sound fragments.flatten ∧
      ∀ next, b.FindsAll next ∧ (b.push? next).isSome := by
  obtain ⟨hpushed, hretains⟩ := retains_empty.pushEach? fragments
  refine ⟨_, hpushed, rfl, hretains.sound, fun next => ⟨hretains.findsAll next, ?_⟩⟩
  rw [hretains.settled.push? next]
  rfl

end Framer

end PromptRelay
