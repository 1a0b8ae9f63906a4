import Mathlib.Tactic.SplitIfs
import PromptRelay.Line

/-!
The mark of a line that reports a failure. It is put before the cause, and what is done to make one
line of both leaves it in its place, whatever the cause is.
-/

namespace PromptRelay

namespace Unicode

/-- A character that decomposes to itself, before which no mark is moved. -/
def IsStarter (c : Char) : Prop :=
  decompose c = [c] ∧ combiningClass c = 0

theorem isStarter_of_lt {c : Char} (h : c.toNat < 0xA0) : IsStarter c := by
  -- The tables are in order, and the first character that they hold is above this one.
  have hblocks : Decomposition.alphabeticBlocks =
      (0x00A0, 0x00A0, [[0x0020]]) :: Decomposition.alphabeticBlocks.tail := rfl
  have hruns : combiningRuns = (0x0300, 0x0314, 230) :: combiningRuns.tail := rfl
  have himage : imageIn Decomposition.alphabeticBlocks c.toNat = none := by
    rw [hblocks, imageIn, if_pos h]
  have hself : decomposition c.toNat = [c.toNat] := by
    rw [decomposition, if_neg (by omega), blocksFor, if_pos (by omega), himage]
    rfl
  constructor
  · rw [decompose, hself, List.map_singleton, Char.ofNat_toNat]
  · rw [combiningClass, hruns, classIn, if_pos (by omega)]

theorem isMark_of_lt {c : Char} (h : c.toNat < 0xA0) : isMark c = false := by
  have hranges : markRanges = (0x0300, 0x036F) :: markRanges.tail := rfl
  rw [isMark, hranges]
  exact covers_of_lt (by omega)

theorem insertMark_of_starter {c : Char} (h : combiningClass c = 0) (s : List Char) :
    insertMark c s = c :: s := by
  cases s with
  | nil => rfl
  | cons d s =>
    rw [insertMark, h, if_neg]
    omega

theorem nfkd_starters_append {starters : List Char} (h : ∀ c ∈ starters, IsStarter c)
    (s : List Char) : nfkd (starters ++ s) = starters ++ nfkd s := by
  induction starters with
  | nil => rfl
  | cons c starters ih =>
    rw [List.forall_mem_cons] at h
    obtain ⟨⟨hself, hclass⟩, hrest⟩ := h
    have htail := ih hrest
    simp only [nfkd, canonicalOrder] at htail ⊢
    rw [List.cons_append, List.flatMap_cons, hself, List.singleton_append, List.foldr_cons, htail,
      insertMark_of_starter hclass, List.cons_append]

theorem trimEnd_append_cons {c : Char} (h : isWhiteSpace c = false) (before after : List Char) :
    trimEnd (before ++ c :: after) = before ++ c :: trimEnd after := by
  have hreverse : (before ++ c :: after).reverse = after.reverse ++ c :: before.reverse := by simp
  have hstop : (c :: before.reverse).dropWhile isWhiteSpace = c :: before.reverse :=
    List.dropWhile_cons_of_neg (by simp [h])
  simp only [trimEnd, trimStart, hreverse, List.dropWhile_append, hstop]
  split_ifs with hblank
  · simp [List.isEmpty_iff.mp hblank]
  · simp

end Unicode

theorem foldBreaks_append {unbroken : List Char} (h : ∀ c ∈ unbroken, isBreak c = false)
    (s : List Char) : foldBreaks (unbroken ++ s) = unbroken ++ foldBreaks s := by
  induction unbroken with
  | nil => rfl
  | cons c unbroken ih =>
    rw [List.forall_mem_cons] at h
    obtain ⟨hc, hrest⟩ := h
    rw [List.cons_append, foldBreaks, ih hrest, hc]
    · rfl
    · rintro t rfl -
      cases hc

def spread (s : List Char) : List Char :=
  foldBreaks ((Unicode.nfkd s).filter fun c => !Unicode.isMark c)

def IsPlain (c : Char) : Prop :=
  Unicode.IsStarter c ∧ Unicode.isMark c = false ∧ isBreak c = false

theorem spread_plain_append {plain : List Char} (h : ∀ c ∈ plain, IsPlain c) (s : List Char) :
    spread (plain ++ s) = plain ++ spread s := by
  have hkept : plain.filter (fun c => !Unicode.isMark c) = plain :=
    List.filter_eq_self.mpr fun c hc => by simp [(h c hc).2.1]
  rw [spread, Unicode.nfkd_starters_append fun c hc => (h c hc).1, List.filter_append, hkept,
    foldBreaks_append fun c hc => (h c hc).2.2]
  rfl

namespace Line

theorem isPlain_failureMark : ∀ c ∈ failureMark.toList ++ [' '], IsPlain c := by
  have hletters : (failureMark.toList ++ [' ']).all
      (fun c => c.toNat < 0xA0 && !isBreak c) = true := rfl
  intro c hc
  have hletter := List.all_eq_true.mp hletters c hc
  simp only [Bool.and_eq_true, decide_eq_true_eq, Bool.not_eq_true'] at hletter
  obtain ⟨hlow, hbreak⟩ := hletter
  exact ⟨Unicode.isStarter_of_lt hlow, Unicode.isMark_of_lt hlow, hbreak⟩

theorem ofFailure_text (cause : String) :
    (ofFailure cause).text.toList =
      failureMark.toList ++ Unicode.trimEnd (' ' :: spread cause.toList) := by
  have hinput : (failureMark ++ " " ++ cause).toList =
      failureMark.toList ++ [' '] ++ cause.toList := by
    simp
  -- The end of the mark is no white space, so trimming leaves the mark alone.
  have hcolon : Unicode.isWhiteSpace ':' = false := rfl
  have hend := Unicode.trimEnd_append_cons hcolon "ERROR".toList (' ' :: spread cause.toList)
  have htrim : normalize (failureMark.toList ++ [' '] ++ cause.toList) =
      Unicode.trim (spread (failureMark.toList ++ [' '] ++ cause.toList)) := rfl
  rw [ofFailure, ofReply, String.toList_ofList, hinput, htrim,
    spread_plain_append isPlain_failureMark]
  exact hend

theorem ofFailure_isFailure (cause : String) : (ofFailure cause).isFailure = true := by
  rw [isFailure, ofFailure_text, List.isPrefixOf_iff_prefix]
  exact List.prefix_append _ _

end Line

end PromptRelay
