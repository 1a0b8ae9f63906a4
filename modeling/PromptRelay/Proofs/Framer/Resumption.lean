import PromptRelay.Proofs.Framer.ByteOffsets

namespace PromptRelay

open Text
open Utf8 (size)

def IsShortestTail (n : ℕ) (tail s : List Char) : Prop :=
  tail <:+ s ∧ min n (size s) ≤ size tail ∧
    ∀ t, t <:+ s → min n (size s) ≤ size t → size tail ≤ size t

theorem size_le_of_suffix {x s : List Char} (h : x <:+ s) : size x ≤ size s := by
  obtain ⟨y, rfl⟩ := h
  rw [size_append]
  omega

theorem reachBytes_nil (n : ℕ) : reachBytes n [] = [] := by
  cases n <;> rfl

theorem reachBytes_zero (s : List Char) : reachBytes 0 s = [] := by
  cases s <;> rfl

theorem size_reachBytes_minimal {n : ℕ} {t s : List Char} (h : t <+: s) (hn : n ≤ size t) :
    size (reachBytes n s) ≤ size t := by
  induction s generalizing n t with
  | nil =>
    rw [reachBytes_nil]
    exact Nat.zero_le _
  | cons c s ih =>
    cases n with
    | zero => exact Nat.zero_le _
    | succ n =>
      cases t with
      | nil => simp [size] at hn
      | cons d t =>
        obtain ⟨rfl, ht⟩ := List.cons_prefix_cons.mp h
        simp only [size] at hn
        have hrest := ih ht (n := n + 1 - d.utf8Size) (by omega)
        simp only [reachBytes, size]
        omega

theorem size_reachBytes_le (n : ℕ) (s : List Char) : size (reachBytes n s) ≤ n + 3 := by
  induction s generalizing n with
  | nil =>
    rw [reachBytes_nil]
    exact Nat.zero_le _
  | cons c s ih =>
    cases n with
    | zero => exact Nat.zero_le _
    | succ n =>
      have hpos := c.utf8Size_pos
      have hfour := c.utf8Size_le_four
      have hrest := ih (n + 1 - c.utf8Size)
      simp only [reachBytes, size]
      rcases Nat.lt_or_ge n c.utf8Size with hlast | hmore
      · have hzero : n + 1 - c.utf8Size = 0 := by omega
        rw [hzero, reachBytes_zero]
        simp only [size]
        omega
      · omega

theorem isShortestTail_reachBytes (n : ℕ) (back : List Char) :
    IsShortestTail n (reachBytes n back).reverse back.reverse := by
  have hprefix := reachBytes_prefix n back
  have hsuffix := List.reverse_suffix.mpr hprefix
  refine ⟨hsuffix, ?_, ?_⟩
  · rw [size_reverse, size_reverse]
    rcases reachBytes_eq_or_le n back with hall | hle
    · rw [hall]
      exact min_le_right _ _
    · exact (min_le_left _ _).trans hle
  · intro t ht hsize
    rw [size_reverse] at hsize
    rcases le_total n (size back) with hle | hle
    · have hreverse : t.reverse <+: back := by simpa using List.reverse_prefix.mpr ht
      rw [min_eq_left hle, ← size_reverse t] at hsize
      rw [size_reverse, ← size_reverse t]
      exact size_reachBytes_minimal hreverse hsize
    · rw [min_eq_right hle] at hsize
      have hall := size_le_of_suffix hsuffix
      rw [size_reverse back] at hall
      exact hall.trans hsize

theorem IsShortestTail.findGreatest {n : ℕ} {x tail : List Char}
    (h : IsShortestTail n tail (x ++ tail)) :
    Nat.findGreatest (IsBoundary (x ++ tail)) (size (x ++ tail) - n) = size x := by
  obtain ⟨-, hlong, hshort⟩ := h
  rw [size_append] at hlong hshort
  rw [Nat.findGreatest_eq_iff, size_append]
  refine ⟨by omega, fun _ => isBoundary_iff.mpr ⟨x, tail, rfl, rfl⟩, ?_⟩
  intro m hm hle hboundary
  obtain ⟨y, z, hsplit, rfl⟩ := isBoundary_iff.mp hboundary
  have hsize := congrArg size hsplit
  rw [size_append, size_append] at hsize
  have hz := hshort z ⟨y, hsplit.symm⟩ (by omega)
  omega

theorem IsShortestTail.append_left {n : ℕ} {tail s : List Char} (h : IsShortestTail n tail s)
    {lead : List Char} (hlead : lead = [] ∨ n ≤ size s) : IsShortestTail n tail (lead ++ s) := by
  rcases hlead with rfl | hsize
  · exact h
  obtain ⟨hsuffix, hlong, hshort⟩ := h
  rw [min_eq_left hsize] at hlong hshort
  refine ⟨hsuffix.trans (List.suffix_append lead s), (min_le_left _ _).trans hlong, ?_⟩
  intro t ht ht'
  rw [size_append, min_eq_left (by omega)] at ht'
  rcases List.suffix_or_suffix_of_suffix ht (List.suffix_append lead s) with hin | hout
  · exact hshort t hin ht'
  · exact (size_le_of_suffix hsuffix).trans (size_le_of_suffix hout)

theorem search_cases (pending : Bool) (s : List Char) :
    (Free mark s [] ∧ (pending = true → '\n' ∉ s)) ∨
      (∃ y z, s = y ++ (mark ++ z) ∧ Free mark y (mark ++ z) ∧ (pending = true → '\n' ∉ y)) ∨
      (pending = true ∧ ∃ y z, s = y ++ '\n' :: z ∧ Free mark y ('\n' :: z) ∧ '\n' ∉ y) := by
  induction s with
  | nil => exact .inl ⟨free_nil, fun _ => List.not_mem_nil⟩
  | cons c s ih =>
    by_cases hmark : mark <+: c :: s
    · obtain ⟨z, hz⟩ := hmark
      exact .inr (.inl ⟨[], z, hz.symm, free_nil, fun _ => List.not_mem_nil⟩)
    by_cases hend : pending = true ∧ c = '\n'
    · obtain ⟨rfl, rfl⟩ := hend
      exact .inr (.inr ⟨rfl, [], s, rfl, free_nil, List.not_mem_nil⟩)
    have hline {y : List Char} (hp : pending = true) (hy : '\n' ∉ y) : '\n' ∉ c :: y := by
      have hc : c ≠ '\n' := fun hc => hend ⟨hp, hc⟩
      simp [hy, hc.symm]
    rcases ih with ⟨hfree, hs⟩ | ⟨y, z, rfl, hfree, hy⟩ | ⟨hp, y, z, rfl, hfree, hy⟩
    · refine .inl ⟨free_cons_iff.mpr ⟨by rwa [List.append_nil], hfree⟩, ?_⟩
      exact fun hp => hline hp (hs hp)
    · refine .inr (.inl ⟨c :: y, z, rfl, free_cons_iff.mpr ⟨hmark, hfree⟩, ?_⟩)
      exact fun hp => hline hp (hy hp)
    · exact .inr (.inr ⟨hp, c :: y, z, rfl, free_cons_iff.mpr ⟨hmark, hfree⟩, hline hp hy⟩)

namespace Framer

theorem scan_append {pending : Bool} (back : List Char) {x s : List Char} (hfree : Free mark x s)
    (hline : pending = true → '\n' ∉ x) :
    scan pending back 0 (x ++ s) = scan pending (x.reverse ++ back) 0 s := by
  induction x generalizing back with
  | nil => rfl
  | cons c x ih =>
    obtain ⟨hc, hx⟩ := free_cons_iff.mp hfree
    have hend : ¬(pending = true ∧ c = '\n') := by
      rintro ⟨hp, rfl⟩
      exact hline hp List.mem_cons_self
    have hrest : pending = true → '\n' ∉ x := fun hp hmem => hline hp (List.mem_cons_of_mem c hmem)
    rw [List.cons_append, scan_of_other back hc hend, ih (c :: back) hx hrest]
    simp

theorem scan_through {pending : Bool} (back : List Char) {s : List Char} (hfree : Free mark s [])
    (hline : pending = true → '\n' ∉ s) :
    scan pending back 0 s = ([], pending, s.reverse ++ back) := by
  have h := scan_append back hfree hline
  rwa [List.append_nil] at h

theorem scan_to_mark {pending : Bool} (back : List Char) {y z : List Char}
    (hfree : Free mark y (mark ++ z)) (hline : pending = true → '\n' ∉ y) :
    scan pending back 0 (y ++ (mark ++ z)) = scan true [] 0 z := by
  rw [scan_append back hfree hline]
  exact scan_of_mark pending _ (List.prefix_append mark z)

theorem scan_to_newline (back : List Char) {y z : List Char} (hfree : Free mark y ('\n' :: z))
    (hline : '\n' ∉ y) :
    scan true back 0 (y ++ '\n' :: z) =
      (Frame.ofText (back.reverse ++ y) :: (scan false [] 0 z).1, (scan false [] 0 z).2) := by
  rw [scan_append back hfree fun _ => hline, scan_of_newline]
  simp

def buffer (f : Framer) : Buffer where
  text := f.buffered
  resumeAt := size f.searched
  isPending := f.isPending

end Framer

namespace Buffer

open Framer (scan settle)

variable {pending : Bool} (x : List Char) {s y z : List Char}

theorem search?_through (hfree : Free mark s []) (hline : pending = true → '\n' ∉ s) :
    search? ⟨x ++ s, size x, pending⟩ = some .nothing := by
  have hmark : offset? mark s = none := by
    have h := offset?_append hfree
    rwa [List.append_nil] at h
  have hend : (if pending then offset? ['\n'] s else none) = none := by
    cases pending with
    | false => rfl
    | true =>
      have h := offset?_append (s := []) (free_singleton_iff.mpr (hline rfl))
      rwa [List.append_nil] at h
  simp [search?, cut?_append, hmark, hend]

theorem search?_to_mark (hfree : Free mark y (mark ++ z)) (hline : pending = true → '\n' ∉ y) :
    search? ⟨x ++ (y ++ (mark ++ z)), size x, pending⟩ = some (.mark ⟨z, 0, true⟩) := by
  have hmark : offset? mark (y ++ (mark ++ z)) = some (size y) := by
    rw [offset?_append hfree]
    simp [offset?, mark]
  -- The end of the line is behind the mark, if there is one at all.
  have hlater : ((if pending then offset? ['\n'] (y ++ (mark ++ z)) else none).filter
      fun stop => stop < size y) = none := by
    cases pending with
    | false => rfl
    | true =>
      rw [if_pos rfl, offset?_append (free_singleton_iff.mpr (hline rfl)),
        Option.filter_eq_none_iff]
      intro stop hstop
      obtain ⟨n, -, rfl⟩ := Option.map_eq_some_iff.mp hstop
      simp
  have htake : takeMark? ⟨x ++ (y ++ (mark ++ z)), size x, pending⟩ (size y) =
      some (.mark ⟨z, 0, true⟩) := by
    have hcut := cut?_append (x ++ y ++ mark) z
    rw [size_append, size_append, List.append_assoc, List.append_assoc] at hcut
    simp [takeMark?, hcut]
  simp [search?, cut?_append, hmark, hlater, htake]

theorem search?_to_newline (hfree : Free mark y ('\n' :: z)) (hline : '\n' ∉ y) :
    search? ⟨x ++ (y ++ '\n' :: z), size x, true⟩ =
      some (.frame (Frame.ofText (x ++ y)) ⟨z, 0, false⟩) := by
  have hend : offset? ['\n'] (y ++ '\n' :: z) = some (size y) := by
    rw [offset?_append (free_singleton_iff.mpr hline)]
    simp [offset?]
  -- A mark can only begin behind the end of the line.
  have hfirst : (offset? mark (y ++ '\n' :: z)).all (fun start => size y < start) = true := by
    rw [offset?_append hfree, Option.all_eq_true]
    intro start hstart
    obtain ⟨n, hn, rfl⟩ := Option.map_eq_some_iff.mp hstart
    have hpos : 0 < n := by
      have hnot : ¬mark <+: '\n' :: z := by simp [mark]
      rw [offset?, if_neg hnot] at hn
      obtain ⟨m, -, rfl⟩ := Option.map_eq_some_iff.mp hn
      exact Nat.add_pos_right m (Char.utf8Size_pos '\n')
    simpa using hpos
  have htake : takeFrame? ⟨x ++ (y ++ '\n' :: z), size x, true⟩ (size y) =
      some (.frame (Frame.ofText (x ++ y)) ⟨z, 0, false⟩) := by
    have hquery := cut?_append (x ++ y) ('\n' :: z)
    have hrest := cut?_append (x ++ y ++ ['\n']) z
    have hone : size ['\n'] = 1 := by decide
    rw [size_append, List.append_assoc] at hquery
    rw [size_append, size_append, hone, List.append_assoc, List.append_assoc,
      List.singleton_append] at hrest
    simp [takeFrame?, hquery, hrest]
  simp [search?, cut?_append, hend, Option.filter_some, hfirst, htake]

theorem searchAll?_eq_scan (pending : Bool) (back s : List Char) :
    ∃ resumeAt, searchAll? ⟨back.reverse ++ s, size back.reverse, pending⟩ =
        some ((scan pending back 0 s).1, ⟨(scan pending back 0 s).2.2.reverse, resumeAt,
          (scan pending back 0 s).2.1⟩) ∧
      (resumeAt = 0 ∨ resumeAt = size back ∧ (scan pending back 0 s).2.2 = s.reverse ++ back) := by
  -- What is behind a frame or a mark is searched from its beginning.
  induction hlen : s.length using Nat.strong_induction_on generalizing pending back s with
  | _ n ih =>
    rcases search_cases pending s with ⟨hfree, hline⟩ | ⟨y, z, rfl, hfree, hline⟩ |
      ⟨rfl, y, z, rfl, hfree, hline⟩
    · have hfound := search?_through back.reverse hfree hline
      rw [searchAll?_of_nothing hfound, Framer.scan_through back hfree hline]
      refine ⟨size back, ?_, .inr ⟨rfl, rfl⟩⟩
      rw [size_reverse]
      simp
    · have hfound := search?_to_mark back.reverse hfree hline
      have hshorter : z.length < n := by simp [← hlen, mark]; omega
      obtain ⟨resumeAt, hall, hresume⟩ := ih z.length hshorter true [] z rfl
      rw [searchAll?_of_mark hfound, Framer.scan_to_mark back hfree hline]
      refine ⟨resumeAt, hall, .inl ?_⟩
      exact hresume.elim id And.left
    · have hfound := search?_to_newline back.reverse hfree hline
      have hshorter : z.length < n := by simp [← hlen]; omega
      obtain ⟨resumeAt, hall, hresume⟩ := ih z.length hshorter false [] z rfl
      have hall' : searchAll? ⟨z, 0, false⟩ = _ := hall
      rw [searchAll?_of_frame hfound, Framer.scan_to_newline back hfree hline, hall']
      refine ⟨resumeAt, rfl, .inl ?_⟩
      exact hresume.elim id And.left

theorem settle?_eq (pending : Bool) (back : List Char) (resumeAt : ℕ)
    (hresume : resumeAt = 0 ∨
      IsBoundary back.reverse resumeAt ∧ resumeAt + (mark.length - 1) ≤ size back) :
    settle? ⟨back.reverse, resumeAt, pending⟩ = some (settle pending back).buffer := by
  obtain ⟨x, -, hdrop, hsplit⟩ := exists_reachBytes_append (mark.length - 1) back
  have htail := isShortestTail_reachBytes (mark.length - 1) back
  have hstart : Nat.findGreatest (IsBoundary back.reverse) (size back.reverse - (size mark - 1)) =
      size x.reverse := by
    rw [hsplit] at htail ⊢
    exact htail.findGreatest
  cases pending with
  | false =>
    have hcut := cut?_append x.reverse (reachBytes (mark.length - 1) back).reverse
    rw [← hsplit] at hcut
    simp [settle?, hstart, hcut, settle, Framer.buffer, Framer.buffered, size]
  | true =>
    have hmax : max (size x.reverse) resumeAt = size x := by
      rcases hresume with rfl | ⟨hboundary, hle⟩
      · rw [Nat.max_zero, size_reverse]
      · have hmark : size mark = mark.length := by decide
        have hroom : resumeAt ≤ size back.reverse - (size mark - 1) := by
          rw [size_reverse, hmark]
          omega
        have hwithin := Nat.le_findGreatest hroom hboundary
        rw [hstart, size_reverse] at hwithin
        rw [size_reverse, max_eq_left hwithin]
    have hbuffer : (settle true back).buffer = ⟨back.reverse, size x, true⟩ := by
      simp [settle, Framer.buffer, Framer.buffered, hdrop, hsplit]
    rw [hbuffer]
    simp [settle?, hstart, hmax]

end Buffer

namespace Framer

/-- The window is long enough for all of a mark but one character, or all of the query. -/
def IsSettled (f : Framer) : Prop :=
  f.searched = [] ∨ mark.length - 1 ≤ size f.window

theorem isSettled_settle (pending : Bool) (back : List Char) : (settle pending back).IsSettled := by
  cases pending with
  | false => exact .inl rfl
  | true =>
    rcases reachBytes_eq_or_le (mark.length - 1) back with hall | hlong
    · left
      simp [settle, hall]
    · right
      simpa [settle, size_reverse] using hlong

theorem push_eq (f : Framer) (fragment : List Char) :
    f.push fragment = ((scan f.isPending f.searched 0 (f.window ++ fragment)).1,
      settle (scan f.isPending f.searched 0 (f.window ++ fragment)).2.1
        (scan f.isPending f.searched 0 (f.window ++ fragment)).2.2) := rfl

theorem IsSettled.push? {f : Framer} (h : f.IsSettled) (fragment : List Char) :
    f.buffer.push? fragment = some ((f.push fragment).1, (f.push fragment).2.buffer) := by
  obtain ⟨resumeAt, hall, hresume⟩ :=
    Buffer.searchAll?_eq_scan f.isPending f.searched (f.window ++ fragment)
  have hresumable : resumeAt = 0 ∨
      IsBoundary (scan f.isPending f.searched 0 (f.window ++ fragment)).2.2.reverse resumeAt ∧
        resumeAt + (mark.length - 1) ≤
          size (scan f.isPending f.searched 0 (f.window ++ fragment)).2.2 := by
    rcases hresume with hzero | ⟨rfl, hback⟩
    · exact .inl hzero
    rcases h with hnil | hlong
    · rw [hnil]
      exact .inl rfl
    · right
      rw [hback, List.reverse_append, List.reverse_reverse]
      refine ⟨isBoundary_iff.mpr ⟨f.searched.reverse, _, rfl, size_reverse _⟩, ?_⟩
      rw [size_append, size_reverse, size_append]
      omega
  have hsettle := Buffer.settle?_eq (scan f.isPending f.searched 0 (f.window ++ fragment)).2.1 _ _
    hresumable
  have htext : ({ f.buffer with text := f.buffer.text ++ fragment } : Buffer) =
      ⟨f.searched.reverse ++ (f.window ++ fragment), size f.searched.reverse, f.isPending⟩ := by
    simp [buffer, buffered, size_reverse]
  rw [push_eq, Buffer.push?, htext, hall]
  simp [hsettle]

end Framer

end PromptRelay
