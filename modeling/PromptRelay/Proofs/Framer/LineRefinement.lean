import PromptRelay.Proofs.Framer.MarkedLines
import PromptRelay.Proofs.Text.Cutting

namespace PromptRelay

theorem reachBytes_prefix (n : ℕ) (s : List Char) : Text.reachBytes n s <+: s := by
  induction s generalizing n with
  | nil => cases n <;> exact List.nil_prefix
  | cons c s ih =>
    cases n with
    | zero => exact List.nil_prefix
    | succ n => exact (List.prefix_cons_inj c).mpr (ih _)

theorem exists_reachBytes_append (n : ℕ) (back : List Char) :
    ∃ x, back = Text.reachBytes n back ++ x ∧ back.drop (Text.reachBytes n back).length = x ∧
      back.reverse = x.reverse ++ (Text.reachBytes n back).reverse := by
  obtain ⟨x, hx⟩ := reachBytes_prefix n back
  have hdrop : (Text.reachBytes n back ++ x).drop (Text.reachBytes n back).length = x :=
    List.drop_left
  rw [hx] at hdrop
  refine ⟨x, hx.symm, hdrop, ?_⟩
  rw [← List.reverse_append, hx]

theorem reachBytes_eq_or_le (n : ℕ) (s : List Char) :
    Text.reachBytes n s = s ∨ n ≤ Utf8.size (Text.reachBytes n s) := by
  induction s generalizing n with
  | nil => exact .inl (by cases n <;> rfl)
  | cons c s ih =>
    cases n with
    | zero => exact .inr (Nat.zero_le _)
    | succ n =>
      rw [Text.reachBytes, Utf8.size]
      rcases ih (n + 1 - c.utf8Size) with h | h
      · exact .inl (by rw [h])
      · exact .inr (by omega)

def MarkFree (x s : List Char) : Prop :=
  ∀ y, y <:+ x → y ≠ [] → ¬mark <+: y ++ s

theorem markFree_nil (s : List Char) : MarkFree [] s :=
  fun _ hy hne => absurd (List.suffix_nil.mp hy) hne

theorem MarkFree.cons {c : Char} {x s : List Char} (h : MarkFree (c :: x) s) :
    ¬mark <+: c :: (x ++ s) ∧ MarkFree x s :=
  ⟨h _ (List.suffix_refl _) (List.cons_ne_nil c x), fun y hy => h y (hy.trans (List.suffix_cons c x))⟩

theorem MarkFree.snoc {c : Char} {x s : List Char} (h : MarkFree x (c :: s))
    (hc : ¬mark <+: c :: s) : MarkFree (x ++ [c]) s := by
  intro y hy hne hmark
  rcases List.suffix_concat_iff.mp hy with rfl | ⟨z, rfl, hz⟩
  · exact hne rfl
  · rw [List.append_assoc, List.singleton_append] at hmark
    by_cases hnil : z = []
    · exact hc (by simpa [hnil] using hmark)
    · exact h z hz hnil hmark

theorem MarkFree.alone {x s : List Char} (h : MarkFree x s) : MarkFree x [] := by
  intro y hy hne hmark
  rw [List.append_nil] at hmark
  exact h y hy hne (hmark.trans (List.prefix_append y s))

theorem MarkFree.right {x y s : List Char} (h : MarkFree (x ++ y) s) : MarkFree y s :=
  fun z hz => h z (hz.trans (List.suffix_append x y))

theorem MarkFree.append {x s : List Char} (h : MarkFree x s) (hlen : mark.length ≤ s.length + 1)
    (t : List Char) : MarkFree x (s ++ t) := by
  intro y hy hne hmark
  have hpos := List.length_pos_iff.mpr hne
  apply h y hy hne
  rw [← List.append_assoc] at hmark
  apply List.prefix_of_prefix_length_le hmark (List.prefix_append _ _)
  rw [List.length_append]
  omega

theorem utf8Size_of_mem_mark : ∀ c ∈ mark, c.utf8Size = 1 := by
  simp [mark, Char.utf8Size]

theorem MarkFree.of_size {x w : List Char} (h : MarkFree (x ++ w) [])
    (hsize : mark.length ≤ Utf8.size w + 1) (s : List Char) : MarkFree x (w ++ s) := by
  intro y hy hne hmark
  have hpos := List.length_pos_iff.mpr hne
  rw [← List.append_assoc] at hmark
  -- A mark that reached beyond `w` would contain all of it, and `w` would be too short.
  rcases Nat.lt_or_ge (y ++ w).length mark.length with hlt | hge
  · have hwithin := List.prefix_of_prefix_length_le (List.prefix_append _ s) hmark hlt.le
    have hone : ∀ c ∈ w, c.utf8Size = 1 :=
      fun c hc => utf8Size_of_mem_mark c (hwithin.subset (List.mem_append_right y hc))
    rw [size_eq_length hone] at hsize
    rw [List.length_append] at hlt
    omega
  · have hbegin := List.prefix_of_prefix_length_le hmark (List.prefix_append _ s) hge
    obtain ⟨z, rfl⟩ := hy
    apply h (y ++ w) ⟨z, by rw [List.append_assoc]⟩ (by simp [hne])
    rw [List.append_nil]
    exact hbegin

theorem MarkFree.afterMark? {x : List Char} (h : MarkFree x []) : afterMark? x = none := by
  rw [afterMark?_eq_none_iff]
  rintro ⟨before, after, rfl⟩
  rw [List.append_assoc] at h
  exact h (mark ++ after) (List.suffix_append _ _) (List.cons_ne_nil _ _)
    ⟨after, (List.append_nil _).symm⟩

theorem lineFrames_append_of_markFree {x s : List Char} (h : MarkFree x s) :
    lineFrames (x ++ s) = lineFrames s ∧ openQuery? (x ++ s) = openQuery? s := by
  induction x with
  | nil => exact ⟨rfl, rfl⟩
  | cons c x ih =>
    obtain ⟨hc, hx⟩ := h.cons
    obtain ⟨hframes, hquery⟩ := lineFrames_cons hc
    rw [List.cons_append, hframes, hquery]
    exact ih hx

/-- The frames of `s` are `frames`, and whatever follows, the rest is as behind `t`. -/
def Continues (s : List Char) (frames : List Frame) (t : List Char) : Prop :=
  ∀ u, lineFrames (s ++ u) = frames ++ lineFrames (t ++ u) ∧ openQuery? (s ++ u) = openQuery? (t ++ u)

namespace Continues

theorem refl (s : List Char) : Continues s [] s :=
  fun _ => ⟨rfl, rfl⟩

theorem trans {r s t : List Char} {fs gs : List Frame} (h : Continues r fs s)
    (k : Continues s gs t) : Continues r (fs ++ gs) t := by
  intro u
  rw [(h u).1, (h u).2, (k u).1, (k u).2, List.append_assoc]
  exact ⟨rfl, rfl⟩

theorem append {s t : List Char} {fs : List Frame} (h : Continues s fs t) (u : List Char) :
    Continues (s ++ u) fs (t ++ u) := by
  intro v
  rw [List.append_assoc, List.append_assoc]
  exact h (u ++ v)

theorem of_markFree {x s : List Char} (h : ∀ u, MarkFree x (s ++ u)) : Continues (x ++ s) [] s := by
  intro u
  rw [List.append_assoc]
  exact lineFrames_append_of_markFree (h u)

end Continues

def resumed (pending : Bool) (s : List Char) : List Char :=
  (if pending then mark else []) ++ s

namespace Framer

theorem continues_mark {pending : Bool} {x s : List Char} (hfree : MarkFree x (mark ++ s))
    (hline : pending = true → '\n' ∉ x) :
    Continues (resumed pending x ++ (mark ++ s)) [] (mark ++ s) := by
  cases pending with
  | true =>
    intro u
    have hx : '\n' ∉ mark ++ x := by simp [newline_not_mem_mark, hline rfl]
    simpa [resumed, List.append_assoc] using lineFrames_append_mark (s ++ u) hx
  | false =>
    apply Continues.of_markFree
    exact hfree.append (by simp; omega)

theorem continues_newline {x : List Char} (s : List Char) (hfree : MarkFree x [])
    (hline : '\n' ∉ x) : Continues (resumed true x ++ '\n' :: s) [Frame.ofText x] s := by
  intro u
  have h := lineFrames_mark_newline (s ++ u) hline hfree.afterMark?
  simpa [resumed, List.append_assoc] using h

structure Scanned (s : List Char) (frames : List Frame) (pending : Bool) (back : List Char) :
    Prop where
  free : MarkFree back.reverse []
  line : pending = true → '\n' ∉ back
  continues : Continues s frames (resumed pending back.reverse)

theorem scan_of_mark (pending : Bool) (back : List Char) {c : Char} {s : List Char}
    (h : mark <+: c :: s) : scan pending back 0 (c :: s) = scan true [] (mark.length - 1) s := by
  rw [scan, if_pos (List.isPrefixOf_iff_prefix.mpr h)]

theorem scan_of_newline (back s : List Char) : scan true back 0 ('\n' :: s) =
    (Frame.ofText back.reverse :: (scan false [] 0 s).1, (scan false [] 0 s).2) := by
  simp [scan, mark]

theorem scan_of_other {pending : Bool} (back : List Char) {c : Char} {s : List Char}
    (hmark : ¬mark <+: c :: s) (hend : ¬(pending = true ∧ c = '\n')) :
    scan pending back 0 (c :: s) = scan pending (c :: back) 0 s := by
  have hnot : ¬mark.isPrefixOf (c :: s) = true := by rwa [List.isPrefixOf_iff_prefix]
  rw [scan, if_neg hnot, if_neg (by simpa using hend)]

theorem scan_scanned (pending : Bool) (back : List Char) (skip : ℕ) (s : List Char)
    (hfree : MarkFree back.reverse (s.drop skip)) (hline : pending = true → '\n' ∉ back) :
    Scanned (resumed pending back.reverse ++ s.drop skip) (scan pending back skip s).1
      (scan pending back skip s).2.1 (scan pending back skip s).2.2 := by
  -- The text is taken up one character after the other; what is behind it is in `back`.
  induction s generalizing pending back skip with
  | nil =>
    rw [List.drop_nil] at hfree ⊢
    rw [scan, List.append_nil]
    exact ⟨hfree, hline, .refl _⟩
  | cons c s ih =>
    cases skip with
    | succ skip => exact ih pending back skip hfree hline
    | zero =>
      rw [List.drop_zero] at hfree ⊢
      by_cases hmark : mark <+: c :: s
      · have hnext := ih true [] (mark.length - 1) (markFree_nil _) (fun _ => List.not_mem_nil)
        obtain ⟨t, ht⟩ := hmark
        have hdrop : s.drop (mark.length - 1) = t := congrArg (List.drop mark.length) ht.symm
        rw [scan_of_mark pending back ⟨t, ht⟩]
        rw [hdrop] at hnext
        rw [← ht] at hfree ⊢
        refine ⟨hnext.free, hnext.line, ?_⟩
        have hstart := continues_mark hfree (by simpa using hline)
        exact hstart.trans hnext.continues
      · by_cases hend : pending = true ∧ c = '\n'
        · obtain ⟨rfl, rfl⟩ := hend
          have hnext := ih false [] 0 (markFree_nil _) (fun h => by cases h)
          rw [scan_of_newline]
          refine ⟨hnext.free, hnext.line, ?_⟩
          have hstart := continues_newline s hfree.alone (by simpa using hline rfl)
          exact hstart.trans hnext.continues
        · have hfree' := hfree.snoc hmark
          have hline' : pending = true → '\n' ∉ c :: back := by
            intro hp
            have hc : c ≠ '\n' := fun hc => hend ⟨hp, hc⟩
            simp [hline hp, hc.symm]
          have hnext := ih pending (c :: back) 0 (by simpa using hfree') hline'
          rw [scan_of_other back hmark hend]
          simpa [resumed] using hnext

structure Follows (f : Framer) (s : List Char) : Prop where
  free : ∀ u, MarkFree f.searched.reverse (f.window ++ u)
  clean : MarkFree f.buffered []
  line : f.isPending = true → '\n' ∉ f.buffered
  continues : Continues s (lineFrames s) (resumed f.isPending f.buffered)

theorem follows_empty : ({} : Framer).Follows [] where
  free _ := markFree_nil _
  clean := markFree_nil _
  line := nofun
  continues := Continues.refl []

theorem exists_settled {back : List Char} (h : MarkFree back.reverse []) :
    ∃ x, back.reverse = x ++ (Text.reachBytes (mark.length - 1) back).reverse ∧
      (back.drop (Text.reachBytes (mark.length - 1) back).length).reverse = x ∧
      ∀ u, MarkFree x ((Text.reachBytes (mark.length - 1) back).reverse ++ u) := by
  obtain ⟨rest, hrest, hdrop, hsplit⟩ := exists_reachBytes_append (mark.length - 1) back
  refine ⟨rest.reverse, hsplit, by rw [hdrop], ?_⟩
  rcases reachBytes_eq_or_le (mark.length - 1) back with hall | hsize
  · have hnil : rest = [] := by simpa [hall] using hrest
    rw [hnil]
    exact fun u => markFree_nil _
  · rw [hsplit] at h
    apply h.of_size
    rw [size_reverse]
    omega

theorem buffered_settle_true {back : List Char} (h : MarkFree back.reverse []) :
    (settle true back).buffered = back.reverse := by
  obtain ⟨x, hsplit, hdrop, -⟩ := exists_settled h
  rw [hsplit, ← hdrop]
  rfl

theorem settle_free (pending : Bool) {back : List Char} (h : MarkFree back.reverse [])
    (u : List Char) :
    MarkFree (settle pending back).searched.reverse ((settle pending back).window ++ u) := by
  cases pending with
  | false => exact markFree_nil _
  | true =>
    obtain ⟨x, -, hdrop, hfree⟩ := exists_settled h
    rw [← hdrop] at hfree
    exact hfree u

theorem continues_settle (pending : Bool) {back : List Char} (h : MarkFree back.reverse []) :
    Continues (resumed pending back.reverse) [] (resumed pending (settle pending back).buffered) := by
  cases pending with
  | true => rw [buffered_settle_true h]; exact .refl _
  | false =>
    obtain ⟨x, hsplit, -, hfree⟩ := exists_settled h
    rw [hsplit]
    exact Continues.of_markFree hfree

theorem settle_clean (pending : Bool) {back : List Char} (h : MarkFree back.reverse []) :
    MarkFree (settle pending back).buffered [] := by
  cases pending with
  | true => rwa [buffered_settle_true h]
  | false =>
    obtain ⟨x, hsplit, -⟩ := exists_settled h
    rw [hsplit] at h
    exact h.right

theorem lineFrames_resumed {pending : Bool} {x : List Char} (hfree : MarkFree x [])
    (hline : pending = true → '\n' ∉ x) :
    lineFrames (resumed pending x) = [] ∧
      openQuery? (resumed pending x) = if pending then some x else none := by
  cases pending with
  | true =>
    have hall : '\n' ∉ mark ++ x := by simp [newline_not_mem_mark, hline rfl]
    simp [resumed, lineFrames, openQuery?, endedLines_of_not_mem hall, openLine_of_not_mem hall,
      afterMark?_mark, hfree.afterMark?]
  | false =>
    have h := lineFrames_append_of_markFree hfree
    rw [List.append_nil] at h
    exact h

theorem settle_line {pending : Bool} {back : List Char} (h : MarkFree back.reverse [])
    (hline : pending = true → '\n' ∉ back) (hp : pending = true) :
    '\n' ∉ (settle pending back).buffered := by
  subst hp
  rw [buffered_settle_true h, List.mem_reverse]
  exact hline rfl

theorem Follows.push {f : Framer} {s : List Char} (h : f.Follows s) (fragment : List Char) :
    lineFrames (s ++ fragment) = lineFrames s ++ (f.push fragment).1 ∧
      (f.push fragment).2.Follows (s ++ fragment) := by
  have hscan := scan_scanned f.isPending f.searched 0 (f.window ++ fragment) (h.free fragment)
    (fun hp hmem => h.line hp (by simp [buffered, hmem]))
  have hbefore : resumed f.isPending f.searched.reverse ++ (f.window ++ fragment) =
      resumed f.isPending f.buffered ++ fragment := by simp [resumed, buffered]
  rw [List.drop_zero, hbefore] at hscan
  have hpush : f.push fragment = ((scan f.isPending f.searched 0 (f.window ++ fragment)).1,
      settle (scan f.isPending f.searched 0 (f.window ++ fragment)).2.1
        (scan f.isPending f.searched 0 (f.window ++ fragment)).2.2) := rfl
  rw [hpush]
  generalize scan f.isPending f.searched 0 (f.window ++ fragment) = result at hscan ⊢
  obtain ⟨frames, pending, back⟩ := result
  obtain ⟨hfree, hline, hcontinues⟩ := hscan
  have hclean := settle_clean pending hfree
  have hline' := settle_line hfree hline
  have hall := ((h.continues.append fragment).trans hcontinues).trans
    (continues_settle pending hfree)
  have hframes : lineFrames (s ++ fragment) = lineFrames s ++ frames := by
    have hend := (hall []).1
    rw [List.append_nil, List.append_nil, List.append_nil,
      (lineFrames_resumed hclean hline').1, List.append_nil] at hend
    exact hend
  refine ⟨hframes, settle_free pending hfree, hclean, hline', ?_⟩
  rw [List.append_nil] at hall
  rw [hframes]
  exact hall

theorem Follows.openQuery? {f : Framer} {s : List Char} (h : f.Follows s) :
    openQuery? s = if f.isPending then some f.buffered else none := by
  have hend := (h.continues []).2
  rw [List.append_nil, List.append_nil] at hend
  rw [hend, (lineFrames_resumed h.clean h.line).2]

def pushEach (f : Framer) : List (List Char) → List (List Frame) × Framer
  | [] => ([], f)
  | fragment :: fragments =>
    let (frames, f) := f.push fragment
    let (outputs, f) := f.pushEach fragments
    (frames :: outputs, f)

def deliveries (s : List Char) : List (List Char) → List (List Frame)
  | [] => []
  | fragment :: fragments =>
    ((endedLines (s ++ fragment)).drop (endedLines s).length).filterMap lineFrame? ::
      deliveries (s ++ fragment) fragments

theorem Follows.delivered {f : Framer} {s : List Char} (h : f.Follows s) (fragment : List Char) :
    (f.push fragment).1 =
      ((endedLines (s ++ fragment)).drop (endedLines s).length).filterMap lineFrame? := by
  have hframes := (h.push fragment).1
  obtain ⟨lines, hlines⟩ := endedLines_prefix s fragment
  simp only [lineFrames, ← hlines, List.filterMap_append] at hframes
  rw [← hlines, List.drop_left]
  exact (List.append_cancel_left hframes).symm

theorem Follows.pushEach {f : Framer} {s : List Char} (h : f.Follows s)
    (fragments : List (List Char)) :
    (f.pushEach fragments).1 = deliveries s fragments ∧
      lineFrames (s ++ fragments.flatten) = lineFrames s ++ (f.pushEach fragments).1.flatten ∧
      (f.pushEach fragments).2.Follows (s ++ fragments.flatten) := by
  induction fragments generalizing f s with
  | nil => simpa [Framer.pushEach, deliveries] using h
  | cons fragment fragments ih =>
    obtain ⟨hframes, hnext⟩ := h.push fragment
    obtain ⟨houtputs, hall, hlast⟩ := ih hnext
    rw [List.append_assoc] at hall hlast
    simp only [Framer.pushEach, deliveries, List.flatten_cons]
    refine ⟨by rw [h.delivered fragment, houtputs], ?_, hlast⟩
    rw [hall, hframes, List.append_assoc]

theorem Follows.isPending_iff {f : Framer} {s : List Char} (h : f.Follows s) :
    (f.isPending = true ↔ mark <:+: openLine s) ∧
      (f.isPending = true → mark ++ f.buffered <:+ openLine s ∧ ¬mark <:+: f.buffered) := by
  have hquery : afterMark? (openLine s) = if f.isPending then some f.buffered else none :=
    h.openQuery?
  cases hp : f.isPending with
  | true =>
    rw [hp, if_pos rfl, afterMark?_eq_some_iff] at hquery
    have hmark := (List.prefix_append mark f.buffered).isInfix.trans hquery.1.isInfix
    exact ⟨⟨fun _ => hmark, fun _ => rfl⟩, fun _ => hquery⟩
  | false =>
    rw [hp, if_neg Bool.false_ne_true, afterMark?_eq_none_iff] at hquery
    exact ⟨⟨nofun, fun hmark => absurd hmark hquery⟩, nofun⟩

theorem pushEach_eq_lines (fragments : List (List Char)) :
    (({} : Framer).pushEach fragments).1.flatten = lineFrames fragments.flatten ∧
      (({} : Framer).pushEach fragments).1 = deliveries [] fragments ∧
      let f := (({} : Framer).pushEach fragments).2
      let line := openLine fragments.flatten
      (f.isPending = true ↔ mark <:+: line) ∧
        (f.isPending = true → mark ++ f.buffered <:+ line ∧ ¬mark <:+: f.buffered) := by
  obtain ⟨houtputs, hall, hlast⟩ := follows_empty.pushEach fragments
  exact ⟨hall.symm, houtputs, hlast.isPending_iff⟩

end Framer

end PromptRelay
