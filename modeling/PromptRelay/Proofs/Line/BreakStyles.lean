import PromptRelay.Proofs.Line.NormalForm

namespace PromptRelay

namespace Unicode

theorem insertMark_append_cons {d : Char} (h : combiningClass d = 0) (c : Char)
    (before after : List Char) :
    insertMark c (before ++ d :: after) = insertMark c before ++ d :: after := by
  induction before with
  | nil =>
    have hstop : ¬(0 < combiningClass d ∧ combiningClass d < combiningClass c) := by omega
    simp [insertMark, hstop]
  | cons e before ih =>
    rw [List.cons_append, insertMark, insertMark]
    split_ifs with hbefore
    · rw [ih, List.cons_append]
    · rfl

theorem canonicalOrder_append_cons {c : Char} (h : combiningClass c = 0)
    (before after : List Char) :
    canonicalOrder (before ++ c :: after) = canonicalOrder before ++ c :: canonicalOrder after := by
  induction before with
  | nil => exact insertMark_of_starter h _
  | cons d before ih =>
    simp only [canonicalOrder] at ih ⊢
    rw [List.cons_append, List.foldr_cons, ih, insertMark_append_cons h, List.foldr_cons]

theorem nfkd_append_cons {c : Char} (h : IsStarter c) (before after : List Char) :
    nfkd (before ++ c :: after) = nfkd before ++ c :: nfkd after := by
  obtain ⟨hself, hclass⟩ := h
  rw [nfkd, List.flatMap_append, List.flatMap_cons, hself, List.singleton_append,
    canonicalOrder_append_cons hclass, ← nfkd, ← nfkd]

end Unicode

def stripped (s : List Char) : List Char :=
  (Unicode.nfkd s).filter fun c => !Unicode.isMark c

section Stripped

variable {c : Char} {s : List Char}

theorem isMark_of_isBreak (h : isBreak c = true) : Unicode.isMark c = false := by
  have hall : ∀ n ∈ Unicode.breakCodes, Unicode.covers Unicode.markRanges n = false := by
    decide +kernel
  exact hall _ (Unicode.isBreak_iff.mp h)

theorem isStarter_of_isBreak (h : isBreak c = true) : Unicode.IsStarter c := by
  have hall : ∀ n ∈ Unicode.breakCodes, Unicode.decomposition n = [n] := by decide +kernel
  have hself := hall _ (Unicode.isBreak_iff.mp h)
  constructor
  · rw [Unicode.decompose, hself, List.map_singleton, Char.ofNat_toNat]
  · exact Unicode.combiningClass_eq_zero (isMark_of_isBreak h)

theorem stripped_append_cons (h : isBreak c = true) (before after : List Char) :
    stripped (before ++ c :: after) = stripped before ++ c :: stripped after := by
  simp [stripped, Unicode.nfkd_append_cons (isStarter_of_isBreak h), isMark_of_isBreak h]

theorem stripped_not_isBreak (h : ∀ c ∈ s, isBreak c = false) :
    ∀ c ∈ stripped s, isBreak c = false := by
  intro d hd
  obtain ⟨c, hc, hdecompose⟩ := Unicode.mem_nfkd.mp (List.mem_filter.mp hd).1
  cases hbreak : isBreak d with
  | false => rfl
  | true =>
    rw [Unicode.isBreak_of_mem_decompose hdecompose hbreak, h c hc] at hbreak
    cases hbreak

theorem foldBreaks_cons_of_isBreak (h : isBreak c = true)
    (hpair : c = '\r' → s.head? ≠ some '\n') : foldBreaks (c :: s) = ' ' :: foldBreaks s := by
  rw [foldBreaks, if_pos h]
  rintro t rfl rfl
  exact hpair rfl rfl

end Stripped

inductive Break
  | crlf
  | lf
  | cr
  | vt
  | ff
  | nel
  | ls
  | ps
  deriving DecidableEq, Repr

namespace Break

def text : Break → List Char
  | crlf => ['\r', '\n']
  | lf => ['\n']
  | cr => ['\r']
  | vt => ['\x0B']
  | ff => ['\x0C']
  | nel => ['\u0085']
  | ls => ['\u2028']
  | ps => ['\u2029']

theorem stripped_append_text (b : Break) (before after : List Char) :
    stripped (before ++ (b.text ++ after)) = stripped before ++ (b.text ++ stripped after) := by
  cases b with
  | crlf =>
    have hreturn : isBreak '\r' = true := rfl
    have hfeed : isBreak '\n' = true := rfl
    have hafter := stripped_append_cons hfeed [] after
    rw [List.nil_append] at hafter
    rw [text, List.cons_append, List.singleton_append, stripped_append_cons hreturn, hafter]
    rfl
  | _ => exact stripped_append_cons rfl before after

theorem foldBreaks_text_append {b : Break} {s : List Char}
    (h : b = cr → s.head? ≠ some '\n') : foldBreaks (b.text ++ s) = ' ' :: foldBreaks s := by
  cases b with
  | crlf => rw [text, List.cons_append, List.singleton_append, foldBreaks]
  | cr => exact foldBreaks_cons_of_isBreak rfl fun _ => h rfl
  | _ => exact foldBreaks_cons_of_isBreak rfl fun hc => absurd hc (by decide)

theorem head?_text_append {b : Break} {s : List Char} (h : b ≠ lf) :
    (b.text ++ s).head? ≠ some '\n' := by
  cases b with
  | lf => exact absurd rfl h
  | _ => simp [text]

theorem exists_text_eq {c : Char} (h : isBreak c = true) (hreturn : c ≠ '\r') :
    ∃ b : Break, b.text = [c] ∧ b ≠ crlf ∧ b ≠ cr := by
  have hall : ∀ n ∈ Unicode.breakCodes, n = '\r'.toNat ∨
      ∃ b ∈ [lf, vt, ff, nel, ls, ps], b.text = [Char.ofNat n] := by decide
  rcases hall _ (Unicode.isBreak_iff.mp h) with hnat | ⟨b, hmem, htext⟩
  · exact absurd (Char.toNat_inj.mp hnat) hreturn
  · rw [Char.ofNat_toNat] at htext
    refine ⟨b, htext, ?_, ?_⟩
    · rintro rfl
      revert hmem
      decide
    · rintro rfl
      revert hmem
      decide

end Break

section Segments

variable {first : List Char} {rest : List (Break × List Char)}

def joined (first : List Char) (rest : List (Break × List Char)) : List Char :=
  first ++ rest.flatMap fun junction => junction.1.text ++ junction.2

/-- No two breaks become one: where a line feed is next after a carriage return, something is left
of the segment between them. -/
def KeptApart (rest : List (Break × List Char)) : Prop :=
  rest.IsChain fun junction next => junction.1 = .cr → next.1 = .lf → stripped junction.2 ≠ []

theorem joined_cons (b : Break) (segment : List Char) :
    joined first ((b, segment) :: rest) = first ++ (b.text ++ joined segment rest) := by
  rw [joined, List.flatMap_cons, List.append_assoc, ← joined]

theorem head?_stripped_joined (hfirst : ∀ c ∈ first, isBreak c = false)
    (h : ∀ next ∈ rest.head?, next.1 = .lf → stripped first ≠ []) :
    (stripped (joined first rest)).head? ≠ some '\n' := by
  have hfeed : '\n' ∉ stripped first := by
    intro hmem
    cases stripped_not_isBreak hfirst '\n' hmem
  cases rest with
  | nil =>
    rw [joined, List.flatMap_nil, List.append_nil]
    exact fun hhead => hfeed (List.mem_of_head? hhead)
  | cons next rest =>
    obtain ⟨b, segment⟩ := next
    rw [joined_cons, Break.stripped_append_text]
    cases hstripped : stripped first with
    | nil => exact Break.head?_text_append fun hlf => h _ rfl hlf hstripped
    | cons c s =>
      rw [hstripped] at hfeed
      rintro ⟨⟩
      exact hfeed List.mem_cons_self

theorem foldBreaks_stripped_joined (hfirst : ∀ c ∈ first, isBreak c = false)
    (hrest : ∀ junction ∈ rest, ∀ c ∈ junction.2, isBreak c = false) (h : KeptApart rest) :
    foldBreaks (stripped (joined first rest)) =
      List.intercalate [' '] ((first :: rest.map Prod.snd).map stripped) := by
  induction rest generalizing first with
  | nil =>
    have hfold := foldBreaks_append (stripped_not_isBreak hfirst) []
    rw [List.append_nil] at hfold
    rw [joined, List.flatMap_nil, List.append_nil, hfold]
    simp [foldBreaks]
  | cons junction rest ih =>
    obtain ⟨b, segment⟩ := junction
    rw [List.forall_mem_cons] at hrest
    obtain ⟨hnext, hchain⟩ := List.isChain_cons.mp h
    have hhead : b = .cr → (stripped (joined segment rest)).head? ≠ some '\n' := by
      intro hb
      exact head?_stripped_joined hrest.1 fun next hmem => hnext next hmem hb
    rw [joined_cons, Break.stripped_append_text,
      foldBreaks_append (stripped_not_isBreak hfirst), Break.foldBreaks_text_append hhead,
      ih hrest.1 hrest.2 hchain]
    simp [List.intercalate_cons_cons]

theorem keptApart_of_forall
    (h : (∀ junction ∈ rest, junction.1 ≠ .cr) ∨ ∀ junction ∈ rest, junction.1 ≠ .lf) :
    KeptApart rest := by
  apply List.Pairwise.isChain
  rw [List.pairwise_iff_forall_sublist]
  intro junction next hsub hreturn hfeed
  rcases h with hnone | hnone
  · exact absurd hreturn (hnone _ (hsub.subset (by simp)))
  · exact absurd hfeed (hnone _ (hsub.subset (by simp)))

end Segments

def rewriteFeeds (b : Break) (text : List Char) : List Char :=
  text.flatMap fun c => if c = '\n' then b.text else [c]

section Rewriting

variable {b : Break}

theorem rewriteFeeds_append (b : Break) (s t : List Char) :
    rewriteFeeds b (s ++ t) = rewriteFeeds b s ++ rewriteFeeds b t :=
  List.flatMap_append

theorem rewriteFeeds_of_not_isBreak {s : List Char} (h : ∀ c ∈ s, isBreak c = false) :
    rewriteFeeds b s = s := by
  have hsame : ∀ c ∈ s, (if c = '\n' then b.text else [c]) = [c] := by
    intro c hc
    rw [if_neg]
    rintro rfl
    cases h '\n' hc
  rw [rewriteFeeds, List.flatMap_congr hsame, List.flatMap_singleton']

def Break.rewritten (b : Break) : Break → Break
  | .lf => b
  | other => other

theorem rewriteFeeds_text {other : Break} (h : other ≠ .crlf) :
    rewriteFeeds b other.text = (b.rewritten other).text := by
  cases other with
  | crlf => exact absurd rfl h
  | lf => exact List.append_nil b.text
  | _ => rfl

theorem rewriteFeeds_joined {first : List Char} {rest : List (Break × List Char)}
    (hfirst : ∀ c ∈ first, isBreak c = false)
    (hrest : ∀ junction ∈ rest, junction.1 ≠ .crlf ∧ ∀ c ∈ junction.2, isBreak c = false) :
    rewriteFeeds b (joined first rest) = joined first (rest.map (Prod.map b.rewritten id)) := by
  induction rest generalizing first with
  | nil =>
    rw [List.map_nil, joined, List.flatMap_nil, List.append_nil]
    exact rewriteFeeds_of_not_isBreak hfirst
  | cons junction rest ih =>
    obtain ⟨other, segment⟩ := junction
    rw [List.forall_mem_cons] at hrest
    obtain ⟨⟨hother, hsegment⟩, hrest⟩ := hrest
    rw [List.map_cons, Prod.map_apply, id, joined_cons, joined_cons, rewriteFeeds_append,
      rewriteFeeds_append, rewriteFeeds_of_not_isBreak hfirst, rewriteFeeds_text hother,
      ih hsegment hrest]

theorem exists_joined {text : List Char} (h : '\r' ∉ text) :
    ∃ first rest, text = joined first rest ∧ (∀ c ∈ first, isBreak c = false) ∧
      ∀ junction ∈ rest, junction.1 ≠ .cr ∧ junction.1 ≠ .crlf ∧
        ∀ c ∈ junction.2, isBreak c = false := by
  induction text with
  | nil => exact ⟨[], [], rfl, List.forall_mem_nil _, List.forall_mem_nil _⟩
  | cons c text ih =>
    rw [List.mem_cons, not_or] at h
    obtain ⟨hreturn, htail⟩ := h
    obtain ⟨first, rest, rfl, hfirst, hrest⟩ := ih htail
    cases hbreak : isBreak c with
    | false => exact ⟨c :: first, rest, rfl, List.forall_mem_cons.mpr ⟨hbreak, hfirst⟩, hrest⟩
    | true =>
      obtain ⟨b, htext, hcrlf, hcr⟩ := Break.exists_text_eq hbreak (Ne.symm hreturn)
      refine ⟨[], (b, first) :: rest, ?_, List.forall_mem_nil _, ?_⟩
      · rw [joined_cons, htext]
        rfl
      · exact List.forall_mem_cons.mpr ⟨⟨hcr, hcrlf, hfirst⟩, hrest⟩

theorem keptApart_rewritten {rest : List (Break × List Char)}
    (h : ∀ junction ∈ rest, junction.1 ≠ .cr) :
    KeptApart (rest.map (Prod.map b.rewritten id)) := by
  apply keptApart_of_forall
  by_cases hb : b = .cr
  · right
    subst hb
    rw [List.forall_mem_map]
    rintro ⟨other, segment⟩ -
    cases other <;> exact Break.noConfusion
  · left
    rw [List.forall_mem_map]
    rintro ⟨other, segment⟩ hmem
    cases other with
    | lf => exact hb
    | cr => exact absurd rfl (h _ hmem)
    | _ => exact Break.noConfusion

end Rewriting

theorem normalize_joined :
    (∀ first rest, (∀ segment ∈ first :: rest.map Prod.snd, ∀ c ∈ segment, isBreak c = false) →
      KeptApart rest → normalize (joined first rest) =
        Unicode.trim (List.intercalate [' '] ((first :: rest.map Prod.snd).map stripped))) ∧
      ∀ b text, '\r' ∉ text → normalize (rewriteFeeds b text) = normalize text := by
  have hnormalize (first : List Char) (rest : List (Break × List Char))
      (hsegments : ∀ segment ∈ first :: rest.map Prod.snd, ∀ c ∈ segment, isBreak c = false)
      (hapart : KeptApart rest) : normalize (joined first rest) =
        Unicode.trim (List.intercalate [' '] ((first :: rest.map Prod.snd).map stripped)) := by
    rw [List.forall_mem_cons, List.forall_mem_map] at hsegments
    exact congrArg Unicode.trim (foldBreaks_stripped_joined hsegments.1 hsegments.2 hapart)
  refine ⟨hnormalize, ?_⟩
  intro b text hreturn
  obtain ⟨first, rest, rfl, hfirst, hrest⟩ := exists_joined hreturn
  have hsegments : ∀ segment ∈ first :: rest.map Prod.snd, ∀ c ∈ segment, isBreak c = false := by
    rw [List.forall_mem_cons, List.forall_mem_map]
    exact ⟨hfirst, fun junction hmem => (hrest junction hmem).2.2⟩
  have hsame : (rest.map (Prod.map b.rewritten id)).map Prod.snd = rest.map Prod.snd := by
    rw [List.map_map]
    rfl
  have hnone : ∀ junction ∈ rest, junction.1 ≠ .cr := fun junction hmem => (hrest junction hmem).1
  rw [rewriteFeeds_joined hfirst fun junction hmem => (hrest junction hmem).2,
    hnormalize first _ (hsame ▸ hsegments) (keptApart_rewritten hnone), hsame,
    hnormalize first rest hsegments (keptApart_of_forall (.inl hnone))]

theorem normalize_joined_mixed :
    normalize (joined ['é'] [(.crlf, ['\u0301']), (.cr, ['ﬁ']), (.lf, ['4']), (.ps, [])]) =
        ['e', ' ', ' ', 'f', 'i', ' ', '4'] ∧
      normalize (rewriteFeeds .cr ['2', '\n', '4', '\n']) = ['2', ' ', '4'] := by
  have hapart : KeptApart [(.crlf, ['\u0301']), (.cr, ['ﬁ']), (.lf, ['4']), (.ps, [])] := by
    unfold KeptApart
    decide +kernel
  have hunbroken : ∀ segment ∈ [['é'], ['\u0301'], ['ﬁ'], ['4'], []],
      ∀ c ∈ segment, isBreak c = false := by
    simp [isBreak]
  constructor
  · rw [normalize_joined.1 _ _ hunbroken hapart]
    decide +kernel
  · rw [normalize_joined.2 .cr _ (by decide)]
    decide +kernel

end PromptRelay
