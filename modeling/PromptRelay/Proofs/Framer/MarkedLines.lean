import Mathlib.Data.List.TakeWhile
import PromptRelay.Framer

namespace PromptRelay

def endedLines (s : List Char) : List (List Char) :=
  (s.splitOn '\n').dropLast

def openLine (s : List Char) : List Char :=
  (s.splitOn '\n').getLastD []

def afterMark? : List Char → Option (List Char)
  | [] => none
  | c :: s =>
    match afterMark? s with
    | some query => some query
    | none => if mark <+: c :: s then some ((c :: s).drop mark.length) else none

def lineFrame? (line : List Char) : Option Frame :=
  (afterMark? line).map fun raw =>
    if raw.all Unicode.isWhiteSpace then .discarded
    else .request ⟨String.ofList (Unicode.trim raw)⟩

def lineFrames (s : List Char) : List Frame :=
  (endedLines s).filterMap lineFrame?

def openQuery? (s : List Char) : Option (List Char) :=
  afterMark? (openLine s)

theorem splitOn_eq (s : List Char) : s.splitOn '\n' = endedLines s ++ [openLine s] := by
  have hne := List.splitOn_ne_nil '\n' s
  rw [endedLines, openLine, List.getLastD_eq_getLast?, List.getLast?_eq_some_getLast hne,
    Option.getD_some, List.dropLast_concat_getLast]

theorem endedLines_append_newline (x y : List Char) :
    endedLines (x ++ '\n' :: y) = endedLines x ++ openLine x :: endedLines y := by
  rw [endedLines, List.splitOn_append_cons_self, List.dropLast_append_of_ne_nil
    (List.splitOn_ne_nil _ _), splitOn_eq x, List.append_assoc, List.singleton_append]
  rfl

theorem openLine_append_newline (x y : List Char) : openLine (x ++ '\n' :: y) = openLine y := by
  rw [openLine, List.splitOn_append_cons_self, splitOn_eq y, ← List.append_assoc]
  simp [List.getLastD_eq_getLast?]

theorem endedLines_of_not_mem {x : List Char} (h : '\n' ∉ x) : endedLines x = [] := by
  rw [endedLines, List.splitOn_eq_singleton h, List.dropLast_singleton]

theorem openLine_of_not_mem {x : List Char} (h : '\n' ∉ x) : openLine x = x := by
  rw [openLine, List.splitOn_eq_singleton h]
  rfl

theorem endedLines_newline {x : List Char} (y : List Char) (h : '\n' ∉ x) :
    endedLines (x ++ '\n' :: y) = x :: endedLines y := by
  rw [endedLines_append_newline, endedLines_of_not_mem h, openLine_of_not_mem h, List.nil_append]

theorem endedLines_cons_of_ne {c : Char} (s : List Char) (hc : c ≠ '\n') :
    endedLines (c :: s) = (endedLines s).modifyHead (List.cons c) := by
  have hb : (c == '\n') = false := by simpa using hc
  rw [endedLines, List.splitOn_cons_eq_if_modifyHead, hb, splitOn_eq]
  cases endedLines s with
  | nil => rfl
  | cons line rest =>
    show ((c :: line) :: rest ++ [openLine s]).dropLast = _
    rw [List.dropLast_concat]
    rfl

theorem endedLines_prefix (x y : List Char) : endedLines x <+: endedLines (x ++ y) := by
  induction x with
  | nil => rw [endedLines_of_not_mem List.not_mem_nil]; exact List.nil_prefix
  | cons c x ih =>
    by_cases hc : c = '\n'
    · subst hc
      have hcons (s : List Char) := endedLines_newline (x := []) s List.not_mem_nil
      simp only [List.nil_append] at hcons
      rw [List.cons_append, hcons, hcons]
      exact (List.prefix_cons_inj []).mpr ih
    · rw [List.cons_append, endedLines_cons_of_ne _ hc, endedLines_cons_of_ne _ hc]
      obtain ⟨rest, hrest⟩ := ih
      rw [← hrest]
      cases endedLines x with
      | nil => exact List.nil_prefix
      | cons line lines => exact List.prefix_append _ _

def IsFirstLine (line s : List Char) : Prop :=
  '\n' ∉ line ∧ (s = line ∨ ∃ rest, s = line ++ '\n' :: rest)

theorem exists_isFirstLine (s : List Char) : ∃ line, IsFirstLine line s := by
  by_cases h : '\n' ∈ s
  · obtain ⟨line, rest, rfl, hline⟩ := List.eq_append_cons_of_mem h
    exact ⟨line, hline, .inr ⟨rest, rfl⟩⟩
  · exact ⟨s, h, .inl rfl⟩

theorem IsFirstLine.isPrefix {line s : List Char} (h : IsFirstLine line s) : line <+: s := by
  obtain ⟨_, rfl | ⟨rest, rfl⟩⟩ := h
  · exact List.prefix_refl _
  · exact List.prefix_append _ _

theorem IsFirstLine.append {x line s : List Char} (hx : '\n' ∉ x) (h : IsFirstLine line s) :
    IsFirstLine (x ++ line) (x ++ s) := by
  obtain ⟨hline, rfl | ⟨rest, rfl⟩⟩ := h
  · exact ⟨by simp [hx, hline], .inl rfl⟩
  · exact ⟨by simp [hx, hline], .inr ⟨rest, by simp⟩⟩

theorem lineFrames_append_left {x line s : List Char} (hx : '\n' ∉ x) (hfirst : IsFirstLine line s)
    (hmark : afterMark? (x ++ line) = afterMark? line) :
    lineFrames (x ++ s) = lineFrames s ∧ openQuery? (x ++ s) = openQuery? s := by
  obtain ⟨hline, rfl | ⟨rest, rfl⟩⟩ := hfirst
  · have hall : '\n' ∉ x ++ s := by simp [hx, hline]
    simp only [lineFrames, openQuery?, endedLines_of_not_mem hall, openLine_of_not_mem hall,
      endedLines_of_not_mem hline, openLine_of_not_mem hline, hmark, and_self]
  · have hall : '\n' ∉ x ++ line := by simp [hx, hline]
    simp only [lineFrames, openQuery?, ← List.append_assoc, endedLines_newline rest hall,
      endedLines_newline rest hline, openLine_append_newline, List.filterMap_cons, lineFrame?,
      hmark, and_self]

theorem afterMark?_cons {c : Char} {s : List Char} (h : ¬mark <+: c :: s) :
    afterMark? (c :: s) = afterMark? s := by
  rw [afterMark?]
  cases afterMark? s <;> simp [h]

theorem afterMark?_append {s query : List Char} (x : List Char) (h : afterMark? s = some query) :
    afterMark? (x ++ s) = some query := by
  induction x with
  | nil => exact h
  | cons c x ih => simp [afterMark?, ih]

theorem afterMark?_mark (s : List Char) :
    afterMark? (mark ++ s) = some ((afterMark? s).getD s) := by
  have htail : afterMark? (mark.tail ++ s) = afterMark? s := by
    simp [mark, afterMark?_cons]
  cases hs : afterMark? s with
  | some query => exact afterMark?_append mark hs
  | none =>
    rw [hs] at htail
    show afterMark? ('A' :: (mark.tail ++ s)) = _
    rw [afterMark?, htail]
    simp [mark]

theorem afterMark?_eq_none_iff (s : List Char) : afterMark? s = none ↔ ¬mark <:+: s := by
  induction s with
  | nil => simp [afterMark?, mark]
  | cons c s ih =>
    rw [List.infix_cons_iff, not_or, ← ih]
    by_cases h : mark <+: c :: s
    · rw [afterMark?]
      cases afterMark? s <;> simp [h]
    · rw [afterMark?_cons h]
      simp [h]

theorem afterMark?_eq_some_iff (s query : List Char) :
    afterMark? s = some query ↔ mark ++ query <:+ s ∧ ¬mark <:+: query := by
  constructor
  · intro h
    induction s with
    | nil => cases h
    | cons c s ih =>
      cases hs : afterMark? s with
      | some later =>
        rw [afterMark?, hs] at h
        obtain ⟨hsuffix, hlast⟩ := ih (hs.trans h)
        exact ⟨hsuffix.trans (List.suffix_cons c s), hlast⟩
      | none =>
        by_cases hmark : mark <+: c :: s
        · rw [afterMark?, hs, if_pos hmark] at h
          obtain ⟨t, ht⟩ := hmark
          obtain rfl : t = query := by simpa [← ht] using h
          have hs' : s = mark.tail ++ t := (List.cons.inj ht).2.symm
          rw [afterMark?_eq_none_iff, hs'] at hs
          refine ⟨⟨[], ht⟩, ?_⟩
          exact fun hlater => hs (hlater.trans (List.suffix_append _ _).isInfix)
        · rw [afterMark?_cons hmark, hs] at h
          cases h
  · rintro ⟨⟨x, rfl⟩, hlast⟩
    apply afterMark?_append
    rw [afterMark?_mark, (afterMark?_eq_none_iff query).mpr hlast]
    rfl

theorem newline_not_mem_mark : '\n' ∉ mark := by
  decide

theorem lineFrames_cons {c : Char} {s : List Char} (h : ¬mark <+: c :: s) :
    lineFrames (c :: s) = lineFrames s ∧ openQuery? (c :: s) = openQuery? s := by
  by_cases hc : c = '\n'
  · subst hc
    have hended := endedLines_newline (x := []) s List.not_mem_nil
    have hopen := openLine_append_newline [] s
    rw [List.nil_append] at hended hopen
    simp [lineFrames, openQuery?, hended, hopen, lineFrame?, afterMark?]
  · obtain ⟨line, hline⟩ := exists_isFirstLine s
    apply lineFrames_append_left (x := [c]) (by simpa using Ne.symm hc) hline
    apply afterMark?_cons
    intro hmark
    exact h (hmark.trans ((List.prefix_cons_inj c).mpr hline.isPrefix))

theorem lineFrames_append_mark {x : List Char} (s : List Char) (hx : '\n' ∉ x) :
    lineFrames (x ++ (mark ++ s)) = lineFrames (mark ++ s) ∧
      openQuery? (x ++ (mark ++ s)) = openQuery? (mark ++ s) := by
  obtain ⟨line, hline⟩ := exists_isFirstLine s
  apply lineFrames_append_left hx (hline.append newline_not_mem_mark)
  rw [afterMark?_mark]
  exact afterMark?_append x (afterMark?_mark line)

theorem trim_eq_nil_iff (s : List Char) :
    Unicode.trim s = [] ↔ ∀ c ∈ s, Unicode.isWhiteSpace c = true := by
  have hnil (t : List Char) : Unicode.trimStart t = [] ↔ ∀ c ∈ t, Unicode.isWhiteSpace c = true :=
    List.dropWhile_eq_nil_iff
  unfold Unicode.trim Unicode.trimEnd
  rw [List.reverse_eq_nil_iff, hnil]
  simp only [List.mem_reverse]
  rw [← hnil, Unicode.trimStart_trimStart, hnil]

theorem ofText_eq (raw : List Char) : Frame.ofText raw =
    if raw.all Unicode.isWhiteSpace then .discarded
    else .request ⟨String.ofList (Unicode.trim raw)⟩ := by
  have hblank : raw.all Unicode.isWhiteSpace = true ↔ Unicode.trim raw = [] := by
    rw [trim_eq_nil_iff, List.all_eq_true]
  unfold Frame.ofText Request.ofText?
  cases ht : Unicode.trim raw with
  | nil => rw [if_pos (hblank.mpr ht)]
  | cons c s => rw [if_neg (by rw [hblank, ht]; exact List.cons_ne_nil c s)]

theorem lineFrames_mark_newline {raw : List Char} (s : List Char) (hraw : '\n' ∉ raw)
    (hmark : afterMark? raw = none) :
    lineFrames (mark ++ raw ++ '\n' :: s) = Frame.ofText raw :: lineFrames s ∧
      openQuery? (mark ++ raw ++ '\n' :: s) = openQuery? s := by
  have hline : '\n' ∉ mark ++ raw := by simp [newline_not_mem_mark, hraw]
  have hquery : afterMark? (mark ++ raw) = some raw := by rw [afterMark?_mark, hmark]; rfl
  simp only [lineFrames, openQuery?, endedLines_newline s hline, openLine_append_newline,
    List.filterMap_cons, lineFrame?, hquery, Option.map_some, ofText_eq, and_self]

end PromptRelay
