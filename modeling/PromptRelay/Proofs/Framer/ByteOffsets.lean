import Mathlib.Data.Nat.Find
import PromptRelay.Proofs.Framer.LineRefinement

/-!
A framer that keeps one buffer and the byte at which the next search goes on. It cuts its buffer at
byte offsets, and a cut beyond the end or within a character fails.
-/

namespace PromptRelay

namespace Text

open Utf8 (size)

def cut? : ℕ → List Char → Option (List Char × List Char)
  | 0, s => some ([], s)
  | _ + 1, [] => none
  | n + 1, c :: s =>
    if c.utf8Size ≤ n + 1 then
      (cut? (n + 1 - c.utf8Size) s).map fun (before, after) => (c :: before, after)
    else none

def IsBoundary (s : List Char) (n : ℕ) : Prop :=
  (cut? n s).isSome

instance (s : List Char) : DecidablePred (IsBoundary s) :=
  fun n => inferInstanceAs (Decidable ((cut? n s).isSome = true))

def offset? (pattern : List Char) : List Char → Option ℕ
  | [] => if pattern <+: [] then some 0 else none
  | c :: s => if pattern <+: c :: s then some 0 else (offset? pattern s).map (· + c.utf8Size)

/-- The pattern does not begin in `x` when `s` follows it. -/
def Free (pattern x s : List Char) : Prop :=
  ∀ y, y <:+ x → y ≠ [] → ¬pattern <+: y ++ s

variable {pattern s x y : List Char} {c : Char} {n : ℕ}

theorem cut?_append (x y : List Char) : cut? (size x) (x ++ y) = some (x, y) := by
  induction x with
  | nil => simp [size, cut?]
  | cons c x ih =>
    have hpos := c.utf8Size_pos
    obtain ⟨n, hn⟩ : ∃ n, c.utf8Size + size x = n + 1 := ⟨c.utf8Size + size x - 1, by omega⟩
    have hrest : n + 1 - c.utf8Size = size x := by omega
    have hfits : c.utf8Size ≤ n + 1 := by omega
    simp [size, hn, cut?, hrest, ih, hfits]

theorem cut?_eq_some (h : cut? n s = some (x, y)) : s = x ++ y ∧ size x = n := by
  induction s generalizing n x with
  | nil =>
    cases n with
    | zero =>
      simp only [cut?, Option.some.injEq, Prod.mk.injEq] at h
      obtain ⟨rfl, rfl⟩ := h
      exact ⟨rfl, rfl⟩
    | succ n => simp [cut?] at h
  | cons c s ih =>
    cases n with
    | zero =>
      simp only [cut?, Option.some.injEq, Prod.mk.injEq] at h
      obtain ⟨rfl, rfl⟩ := h
      exact ⟨rfl, rfl⟩
    | succ n =>
      rw [cut?] at h
      split_ifs at h with hc
      obtain ⟨⟨before, after⟩, hcut, heq⟩ := Option.map_eq_some_iff.mp h
      simp only [Prod.mk.injEq] at heq
      obtain ⟨rfl, rfl⟩ := heq
      obtain ⟨rfl, hsize⟩ := ih hcut
      refine ⟨rfl, ?_⟩
      simp only [size]
      omega

theorem isBoundary_iff : IsBoundary s n ↔ ∃ x y, s = x ++ y ∧ size x = n := by
  constructor
  · intro h
    obtain ⟨⟨x, y⟩, hcut⟩ := Option.isSome_iff_exists.mp h
    exact ⟨x, y, cut?_eq_some hcut⟩
  · rintro ⟨x, y, rfl, rfl⟩
    simp [IsBoundary, cut?_append]

theorem length_lt_of_cut? (h : cut? n s = some (x, y)) (hn : 0 < n) : y.length < s.length := by
  obtain ⟨rfl, rfl⟩ := cut?_eq_some h
  cases x with
  | nil => exact absurd hn (lt_irrefl 0)
  | cons c x =>
    simp only [List.cons_append, List.length_cons, List.length_append]
    omega

theorem free_nil : Free pattern [] s :=
  fun _ hy hne => absurd (List.suffix_nil.mp hy) hne

theorem free_cons_iff :
    Free pattern (c :: x) s ↔ ¬pattern <+: c :: (x ++ s) ∧ Free pattern x s := by
  constructor
  · intro h
    refine ⟨h _ (List.suffix_refl _) (List.cons_ne_nil c x), ?_⟩
    exact fun y hy => h y (hy.trans (List.suffix_cons c x))
  · rintro ⟨hc, hx⟩ y hy hne
    rcases List.suffix_cons_iff.mp hy with rfl | hy
    · exact hc
    · exact hx y hy hne

theorem free_singleton_iff : Free [c] x s ↔ c ∉ x := by
  induction x with
  | nil => simp [free_nil]
  | cons d x ih => simp [free_cons_iff, ih]

theorem offset?_append (h : Free pattern x s) :
    offset? pattern (x ++ s) = (offset? pattern s).map (· + size x) := by
  induction x with
  | nil => simp [size]
  | cons c x ih =>
    obtain ⟨hc, hx⟩ := free_cons_iff.mp h
    rw [List.cons_append, offset?, if_neg hc, ih hx, Option.map_map]
    congr 1
    funext n
    simp only [Function.comp_apply, size]
    omega

end Text

open Text
open Utf8 (size)

structure Buffer where
  text : List Char := []
  resumeAt : ℕ := 0
  isPending : Bool := false

namespace Buffer

inductive Finding where
  | frame (frame : Frame) (next : Buffer)
  | mark (next : Buffer)
  | nothing

def takeFrame? (b : Buffer) (stop : ℕ) : Option Finding := do
  let (query, _) ← cut? (b.resumeAt + stop) b.text
  let (_, text) ← cut? (b.resumeAt + stop + 1) b.text
  return .frame (Frame.ofText query) { text }

def takeMark? (b : Buffer) (start : ℕ) : Option Finding := do
  let (_, text) ← cut? (b.resumeAt + start + size mark) b.text
  return .mark { text, isPending := true }

def search? (b : Buffer) : Option Finding := do
  let (_, rest) ← cut? b.resumeAt b.text
  let start? := offset? mark rest
  let stop? := if b.isPending then offset? ['\n'] rest else none
  match stop?.filter fun stop => start?.all fun start => stop < start, start? with
  | some stop, _ => b.takeFrame? stop
  | none, some start => b.takeMark? start
  | none, none => return .nothing

def Finding.Shortens (b : Buffer) : Finding → Prop
  | .frame _ next => next.text.length < b.text.length
  | .mark next => next.text.length < b.text.length
  | .nothing => True

theorem takeFrame?_shortens {b : Buffer} {stop : ℕ} {found : Finding}
    (h : b.takeFrame? stop = some found) : found.Shortens b := by
  obtain ⟨_, -, h⟩ := Option.bind_eq_some_iff.mp h
  obtain ⟨⟨before, text⟩, hcut, h⟩ := Option.bind_eq_some_iff.mp h
  obtain rfl := Option.some.inj h
  exact length_lt_of_cut? hcut (Nat.succ_pos _)

theorem takeMark?_shortens {b : Buffer} {start : ℕ} {found : Finding}
    (h : b.takeMark? start = some found) : found.Shortens b := by
  obtain ⟨⟨before, text⟩, hcut, h⟩ := Option.bind_eq_some_iff.mp h
  obtain rfl := Option.some.inj h
  have hmark : 0 < size mark := by decide
  exact length_lt_of_cut? hcut (by omega)

theorem search?_shortens {b : Buffer} {found : Finding} (h : b.search? = some found) :
    found.Shortens b := by
  obtain ⟨⟨before, rest⟩, -, h⟩ := Option.bind_eq_some_iff.mp h
  dsimp only at h
  split at h
  · exact takeFrame?_shortens h
  · exact takeMark?_shortens h
  · obtain rfl := Option.some.inj h
    trivial

def searchAll? (b : Buffer) : Option (List Frame × Buffer) :=
  match _h : b.search? with
  | none => none
  | some (.frame frame next) =>
    (searchAll? next).map fun (frames, last) => (frame :: frames, last)
  | some (.mark next) => searchAll? next
  | some .nothing => some ([], b)
termination_by b.text.length
decreasing_by
  · exact search?_shortens _h
  · exact search?_shortens _h

/-- Of noise, keeps the end in which a mark may have begun; of a query, keeps all and moves to that
end. Its beginning is walked back to the beginning of a character. -/
def settle? (b : Buffer) : Option Buffer :=
  let start := Nat.findGreatest (IsBoundary b.text) (size b.text - (size mark - 1))
  if b.isPending then some { b with resumeAt := max start b.resumeAt }
  else do
    let (_, text) ← cut? start b.text
    return { text }

def push? (b : Buffer) (fragment : List Char) : Option (List Frame × Buffer) := do
  let (frames, b) ← searchAll? { b with text := b.text ++ fragment }
  let b ← b.settle?
  return (frames, b)

def pushEach? (b : Buffer) : List (List Char) → Option (List (List Frame) × Buffer)
  | [] => some ([], b)
  | fragment :: fragments => do
    let (frames, b) ← b.push? fragment
    let (outputs, b) ← b.pushEach? fragments
    return (frames :: outputs, b)

theorem searchAll?_of_frame {b next : Buffer} {frame : Frame}
    (h : b.search? = some (.frame frame next)) :
    b.searchAll? = next.searchAll?.map fun (frames, last) => (frame :: frames, last) := by
  rw [searchAll?]
  split <;> simp_all

theorem searchAll?_of_mark {b next : Buffer} (h : b.search? = some (.mark next)) :
    b.searchAll? = next.searchAll? := by
  rw [searchAll?]
  split <;> simp_all

theorem searchAll?_of_nothing {b : Buffer} (h : b.search? = some .nothing) :
    b.searchAll? = some ([], b) := by
  rw [searchAll?]
  split <;> simp_all

end Buffer

end PromptRelay
