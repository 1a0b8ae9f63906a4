import PromptRelay.Proofs.Line.Ascii
import PromptRelay.Proofs.Unicode.Tables
import PromptRelay.Proofs.Utf8.LenientDecoding

namespace PromptRelay

namespace Unicode

variable {s : List Char} {c : Char}

theorem head?_trimStart (h : (trimStart s).head? = some c) : isWhiteSpace c = false := by
  have hstop := List.head?_dropWhile_not isWhiteSpace s
  rw [trimStart] at h
  rw [h] at hstop
  simpa using hstop

theorem getLast?_trim (h : (trim s).getLast? = some c) : isWhiteSpace c = false := by
  rw [trim, trimEnd, List.getLast?_reverse] at h
  exact head?_trimStart h

theorem head?_trim (h : (trim s).head? = some c) : isWhiteSpace c = false := by
  cases hstart : trimStart s with
  | nil =>
    rw [trim, hstart] at h
    cases h
  | cons d t =>
    have hd : isWhiteSpace d = false := head?_trimStart (s := s) (by rw [hstart]; rfl)
    have hend := trimEnd_append_cons hd [] t
    rw [List.nil_append, List.nil_append] at hend
    rw [trim, hstart, hend, List.head?_cons] at h
    rwa [← Option.some.inj h]

theorem trimStart_eq_self (h : ∀ c, s.head? = some c → isWhiteSpace c = false) :
    trimStart s = s := by
  cases s with
  | nil => rfl
  | cons c s =>
    have hc := h c rfl
    exact List.dropWhile_cons_of_neg (by simp [hc])

theorem trim_eq_self (hfirst : ∀ c, s.head? = some c → isWhiteSpace c = false)
    (hlast : ∀ c, s.getLast? = some c → isWhiteSpace c = false) : trim s = s := by
  have hreverse : trimStart s.reverse = s.reverse := by
    apply trimStart_eq_self
    simpa using hlast
  rw [trim, trimStart_eq_self hfirst, trimEnd, hreverse, List.reverse_reverse]

end Unicode

theorem mem_foldBreaks {s : List Char} {c : Char} (h : c ∈ foldBreaks s) : c = ' ' ∨ c ∈ s := by
  induction s using foldBreaks.induct with
  | case1 => cases h
  | case2 s ih =>
    rw [foldBreaks, List.mem_cons] at h
    rcases h with hspace | h
    · exact Or.inl hspace
    · exact (ih h).imp_right fun hmem => List.mem_cons_of_mem _ (List.mem_cons_of_mem _ hmem)
  | case3 d s hpair ih =>
    rw [foldBreaks.eq_3 d s hpair, List.mem_cons] at h
    rcases h with hhead | h
    · split_ifs at hhead
      · exact Or.inl hhead
      · exact Or.inr (hhead ▸ List.mem_cons_self)
    · exact (ih h).imp_right fun hmem => List.mem_cons_of_mem _ hmem

theorem isPlain_of_lt {c : Char} (h : c.toNat < 0xA0) (hbreak : isBreak c = false) : IsPlain c :=
  ⟨Unicode.isStarter_of_lt h, Unicode.isMark_of_lt h, hbreak⟩

theorem isPlain_of_mem_spread {s : List Char} {c : Char} (h : c ∈ spread s) : IsPlain c := by
  have hbreak := foldBreaks_not_isBreak _ c h
  rcases mem_foldBreaks h with rfl | hkept
  · exact isPlain_of_lt (by decide) hbreak
  · obtain ⟨hmem, hmark⟩ := List.mem_filter.mp hkept
    rw [Bool.not_eq_true'] at hmark
    obtain ⟨b, -, hdecompose⟩ := Unicode.mem_nfkd.mp hmem
    have hself := Unicode.decompose_of_mem hdecompose
    exact ⟨⟨hself, Unicode.combiningClass_eq_zero hmark⟩, hmark, hbreak⟩

/-- A text of one line: nothing in it is changed or moved, and there is no white space around it. -/
structure IsOneLine (s : List Char) : Prop where
  plain : ∀ c ∈ s, IsPlain c
  first : ∀ c, s.head? = some c → Unicode.isWhiteSpace c = false
  last : ∀ c, s.getLast? = some c → Unicode.isWhiteSpace c = false

theorem isOneLine_normalize (s : List Char) : IsOneLine (normalize s) where
  plain _ hc := isPlain_of_mem_spread (trim_subset _ hc)
  first _ := Unicode.head?_trim
  last _ := Unicode.getLast?_trim

theorem IsOneLine.normalize {s : List Char} (h : IsOneLine s) : normalize s = s := by
  have hspread := spread_plain_append h.plain []
  rw [List.append_nil] at hspread
  have hnil : spread [] = [] := rfl
  rw [hnil, List.append_nil] at hspread
  have htrim : PromptRelay.normalize s = Unicode.trim (spread s) := rfl
  rw [htrim, hspread, Unicode.trim_eq_self h.first h.last]

namespace Line

theorem ofReply_clean (raw : String) :
    (∀ c ∈ normalize raw.toList, isBreak c = false ∧ Unicode.isMark c = false) ∧
      (∀ c, (normalize raw.toList).head? = some c ∨ (normalize raw.toList).getLast? = some c →
        Unicode.isWhiteSpace c = false) ∧
      normalize (normalize raw.toList) = normalize raw.toList ∧
      Utf8.decode? (ofReply raw).bytes = some (normalize raw.toList ++ ['\n']) ∧
      ∃ front, (ofReply raw).bytes = front ++ [0x0A] ∧ 0x0A ∉ front := by
  have hline := isOneLine_normalize raw.toList
  have hbytes : (ofReply raw).bytes = Utf8.encode (normalize raw.toList) ++ [0x0A] := by
    rw [bytes, ofReply, String.toList_ofList]
  refine ⟨?_, ?_, hline.normalize, ?_, _, hbytes, ?_⟩
  · intro c hc
    obtain ⟨-, hmark, hbreak⟩ := hline.plain c hc
    exact ⟨hbreak, hmark⟩
  · rintro c (hfirst | hlast)
    · exact hline.first c hfirst
    · exact hline.last c hlast
  · have hencode : (ofReply raw).bytes = Utf8.encode (normalize raw.toList ++ ['\n']) := by
      have hend : Utf8.encode ['\n'] = [0x0A] := rfl
      rw [hbytes, ← hend]
      simp [Utf8.encode]
    rw [hencode, Utf8.decode?_encode]
  · exact Utf8.newline_not_mem_encode (newline_not_mem_normalize _)

end Line

end PromptRelay
