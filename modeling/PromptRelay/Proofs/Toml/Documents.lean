import PromptRelay.Proofs.Except
import PromptRelay.Proofs.Line.FailureMark
import PromptRelay.Proofs.Toml.Lines

namespace PromptRelay.Toml

open Quotation (isText)
open Text (inset)

variable {n : ℕ} {name : String} {s rest : List Char} {v : Toml} {d e : Draft}
  {members ms : Members}

abbrev Section := String × List (String × Toml)

def charsOf (v : Toml) : List Char :=
  (valueText v).toOption.getD []

def entryChars (entry : String × Toml) : List Char :=
  entry.1.toList ++ ' ' :: '=' :: ' ' :: charsOf entry.2

def sectionChars (S : Section) : List Char :=
  '[' :: (S.1.toList ++ ']' :: S.2.flatMap fun entry => '\n' :: entryChars entry)

def documentChars : List Section → List Char
  | [] => []
  | S :: sections => sectionChars S ++ sections.flatMap fun S => '\n' :: '\n' :: sectionChars S

def shiftSection (n : ℕ) (S : Section) : Section :=
  (S.1, S.2.map fun entry => (entry.1, entry.2.shift n))

structure IsSection (S : Section) : Prop where
  name : IsBare S.1
  distinct : (S.2.map Prod.fst).Nodup
  bare : ∀ entry ∈ S.2, IsBare entry.1
  scalar : ∀ entry ∈ S.2, entry.2.IsScalar
  written : ∀ entry ∈ S.2, valueText entry.2 = .ok (charsOf entry.2)

structure IsDocument (sections : List Section) : Prop where
  distinct : (sections.map Prod.fst).Nodup
  sections : ∀ S ∈ sections, IsSection S

variable {S : Section} {sections : List Section} {entries : List (String × Toml)}

def valueNodes (entries : List (String × Toml)) : Members :=
  entries.map fun entry => (entry.1, .value entry.2)

def sectionNodes (sections : List Section) : Members :=
  sections.map fun S => (S.1, .table .defined (valueNodes S.2))

theorem ofMembers_valueNodes (entries : List (String × Toml)) :
    ofMembers (valueNodes entries) = entries := by
  induction entries with
  | nil => rfl
  | cons entry entries ih => exact congrArg (entry :: ·) ih

theorem ofMembers_sectionNodes (sections : List Section) :
    ofMembers (sectionNodes sections) = sections.map fun S => (S.1, .table S.2) := by
  induction sections with
  | nil => rfl
  | cons S sections ih =>
    have hS : ofNode (.table .defined (valueNodes S.2)) = .table S.2 :=
      congrArg table (ofMembers_valueNodes S.2)
    exact congrArg₂ (fun v rest => (S.1, v) :: rest) hS ih

namespace Draft

theorem ContinuesTo.values (members : Members) (hbare : ∀ entry ∈ entries, IsBare entry.1)
    (hscalar : ∀ entry ∈ entries, entry.2.IsScalar)
    (hwritten : ∀ entry ∈ entries, valueText entry.2 = .ok (charsOf entry.2))
    (hdistinct : (members.map Prod.fst ++ entries.map Prod.fst).Nodup)
    (hname : name ∉ ms.map Prod.fst)
    (h : (⟨[name], ms ++ [(name, .table .defined (members ++
      valueNodes (entries.map fun entry => (entry.1, entry.2.shift n))))]⟩ :
        Draft).ContinuesTo rest e) :
    (⟨[name], ms ++ [(name, .table .defined members)]⟩ : Draft).ContinuesTo
      (inset n (entries.flatMap fun entry => '\n' :: entryChars entry) ++ rest) e := by
  induction entries generalizing members with
  | nil => simpa [inset, valueNodes] using h
  | cons entry entries ih =>
    rw [List.forall_mem_cons] at hbare hscalar hwritten
    have hkey : entry.1 ∉ members.map Prod.fst := fun hmem =>
      (List.nodup_append.mp hdistinct).2.2 _ hmem _ List.mem_cons_self rfl
    have hnext := ih (members ++ [(entry.1, .value (entry.2.shift n))]) hbare.2 hscalar.2
      hwritten.2 (by simpa using hdistinct) (by simpa [valueNodes] using h)
    have hentry := hnext.entry (d := ⟨[name], ms ++ [(name, .table .defined members)]⟩) hbare.1
      hscalar.1 hwritten.1 (assignUnder_eq hname hkey (entry.2.shift n))
    have hchars : inset n (entryChars entry) =
        entry.1.toList ++ ' ' :: '=' :: ' ' :: inset n (charsOf entry.2) := by
      rw [entryChars, Text.inset_append, Text.inset_of_not_mem hbare.1.newline_not_mem]
      rfl
    rw [List.flatMap_cons, List.cons_append, Text.inset_newline, Text.inset_append, hchars]
    simpa using (hentry.spaces n).continuesTo

theorem ContinuesTo.section (header : List String) (ms : Members) (hS : IsSection S)
    (hname : S.1 ∉ ms.map Prod.fst)
    (h : (⟨[S.1], ms ++ sectionNodes [shiftSection n S]⟩ : Draft).ContinuesTo rest e) :
    (⟨header, ms⟩ : Draft).ReadsTo (inset n (sectionChars S) ++ rest) e := by
  have hvalues := ContinuesTo.values [] hS.bare hS.scalar hS.written hS.distinct hname h
  have hheader := hvalues.header (d := ⟨header, ms⟩) hS.name (addTable_eq hname)
  rw [sectionChars, Text.inset_cons_of_ne (by decide), Text.inset_append,
    Text.inset_of_not_mem hS.name.newline_not_mem, Text.inset_cons_of_ne (by decide)]
  simpa using hheader

theorem exists_continuesTo (header : List String) (ms : Members)
    (hsections : ∀ S ∈ sections, IsSection S)
    (hdistinct : (ms.map Prod.fst ++ sections.map Prod.fst).Nodup)
    (hrest : ∀ c ∈ rest, c = '\n') :
    ∃ header', (⟨header, ms⟩ : Draft).ContinuesTo
      (inset n (sections.flatMap fun S => '\n' :: '\n' :: sectionChars S) ++ rest)
      ⟨header', ms ++ sectionNodes (sections.map (shiftSection n))⟩ := by
  induction sections generalizing header ms with
  | nil =>
    refine ⟨header, fun c hc => hrest c (List.mem_of_mem_head? hc), ?_⟩
    simpa [sectionNodes, inset] using
      readsTo_self (d := ⟨header, ms⟩) fun c hc => hrest c (List.mem_of_mem_tail hc)
  | cons S sections ih =>
    rw [List.forall_mem_cons] at hsections
    have hname : S.1 ∉ ms.map Prod.fst := fun hmem =>
      (List.nodup_append.mp hdistinct).2.2 _ hmem _ List.mem_cons_self rfl
    obtain ⟨header', hnext⟩ := ih [S.1] (ms ++ sectionNodes [shiftSection n S])
      hsections.2 (by simpa [sectionNodes, shiftSection] using hdistinct)
    refine ⟨header', ?_⟩
    have hsection := hnext.section header ms hsections.1 hname
    rw [List.flatMap_cons, List.cons_append, List.cons_append, Text.inset_newline,
      Text.inset_newline, Text.inset_append]
    simpa [sectionNodes] using ((hsection.spaces n).newline.spaces n).continuesTo

end Draft

theorem read?_ofList (hs : ∀ t, s ≠ '\uFEFF' :: t) (h : ({} : Draft).ReadsTo s d) :
    read? (String.ofList s) = some (ofMembers d.members) := by
  have hread := h _ (Nat.lt_succ_self s.length)
  rw [read?, String.toList_ofList]
  split
  next t => exact absurd rfl (hs t)
  next =>
    rw [hread]
    rfl

theorem read?_documentChars (h : IsDocument sections) (hne : sections ≠ []) (n : ℕ)
    (hrest : ∀ c ∈ rest, c = '\n') :
    read? (String.ofList (List.replicate n ' ' ++ (inset n (documentChars sections) ++ rest))) =
      some (sections.map fun S => (S.1, .table (shiftSection n S).2)) := by
  obtain ⟨S, sections, rfl⟩ := List.exists_cons_of_ne_nil hne
  obtain ⟨hS, hsections⟩ := List.forall_mem_cons.mp h.sections
  obtain ⟨header, hnext⟩ := Draft.exists_continuesTo (n := n) [S.1]
    (sectionNodes [shiftSection n S]) hsections h.distinct hrest
  have hread := (hnext.section [] [] hS List.not_mem_nil).spaces n
  have hstart : ∀ t, List.replicate n ' ' ++ (inset n (documentChars (S :: sections)) ++ rest) ≠
      '\uFEFF' :: t := by
    cases n <;> exact fun t heq => absurd (List.cons.inj heq).1 (by decide)
  rw [← List.append_assoc (inset n (sectionChars S)), ← Text.inset_append] at hread
  rw [read?_ofList hstart hread]
  have hmembers := ofMembers_sectionNodes ((S :: sections).map (shiftSection n))
  rw [List.map_map] at hmembers
  exact congrArg some hmembers

theorem isText_sectionChars (hS : IsSection S) :
    ∀ c ∈ sectionChars S, isText c = true ∨ c = '\n' := by
  have hname {name : String} (h : IsBare name) : ∀ c ∈ name.toList, isText c = true ∨ c = '\n' :=
    fun c hc => .inl (h.isText c hc)
  have hentries : ∀ c ∈ S.2.flatMap fun entry => '\n' :: entryChars entry,
      isText c = true ∨ c = '\n' := by
    intro c hc
    obtain ⟨entry, hentry, hmem⟩ := List.mem_flatMap.mp hc
    have hvalue := (valueText_spec (hS.scalar entry hentry) (hS.written entry hentry)).1
    have hsign : ∀ c ∈ [' ', '=', ' '], isText c = true ∨ c = '\n' :=
      isText_or_newline_of_all rfl
    rcases List.mem_cons.mp hmem with rfl | hmem
    · exact .inr rfl
    · exact List.forall_mem_append.mpr ⟨hname (hS.bare entry hentry),
        List.forall_mem_append.mpr ⟨hsign, hvalue⟩⟩ c hmem
  exact List.forall_mem_cons.mpr ⟨.inl rfl, List.forall_mem_append.mpr ⟨hname hS.name,
    List.forall_mem_cons.mpr ⟨.inl rfl, hentries⟩⟩⟩

theorem isText_documentChars (h : IsDocument sections) :
    ∀ c ∈ documentChars sections, isText c = true ∨ c = '\n' := by
  cases sections with
  | nil => exact nofun
  | cons S sections =>
    obtain ⟨hS, hsections⟩ := List.forall_mem_cons.mp h.sections
    refine List.forall_mem_append.mpr ⟨isText_sectionChars hS, fun c hc => ?_⟩
    obtain ⟨S', hS', hmem⟩ := List.mem_flatMap.mp hc
    rcases List.mem_cons.mp hmem with rfl | hmem
    · exact .inr rfl
    · rcases List.mem_cons.mp hmem with rfl | hmem
      · exact .inr rfl
      · exact isText_sectionChars (hsections S' hS') c hmem

theorem EndsInInk.append_flatMap {α : Type} {f : α → List Char} {xs : List α} (h : EndsInInk s)
    (hf : ∀ x ∈ xs, EndsInInk (f x)) : EndsInInk (s ++ xs.flatMap f) := by
  induction xs generalizing s with
  | nil => simpa using h
  | cons x xs ih =>
    rw [List.forall_mem_cons] at hf
    rw [List.flatMap_cons, ← List.append_assoc]
    exact ih (hf.1.append_left s) hf.2

theorem endsInInk_sectionChars (hS : IsSection S) : EndsInInk (sectionChars S) := by
  have hheader : EndsInInk ('[' :: (S.1.toList ++ [']'])) :=
    ⟨'[' :: S.1.toList, ']', rfl, by decide⟩
  have hentries : ∀ entry ∈ S.2, EndsInInk ('\n' :: entryChars entry) := by
    intro entry hentry
    have hvalue := (valueText_spec (hS.scalar entry hentry) (hS.written entry hentry)).2.2
    exact (hvalue.append_left [' ', '=', ' ']).append_left ('\n' :: entry.1.toList)
  simpa [sectionChars] using hheader.append_flatMap hentries

theorem endsInInk_documentChars (h : IsDocument sections) (hne : sections ≠ []) :
    EndsInInk (documentChars sections) := by
  obtain ⟨S, sections, rfl⟩ := List.exists_cons_of_ne_nil hne
  obtain ⟨hS, hsections⟩ := List.forall_mem_cons.mp h.sections
  exact (endsInInk_sectionChars hS).append_flatMap fun S' hS' =>
    (endsInInk_sectionChars (hsections S' hS')).append_left ['\n', '\n']

theorem entryText_eq {entry : String × Toml} (h : valueText entry.2 = .ok (charsOf entry.2)) :
    entryText entry.1 entry.2 = .ok (entryChars entry ++ ['\n']) := by
  rw [entryText, h, entryChars]
  simp

theorem newline_cons_flatMap {α : Type} (f : α → List Char) (xs : List α) :
    '\n' :: (xs.map fun x => f x ++ ['\n']).flatten =
      (xs.flatMap fun x => '\n' :: f x) ++ ['\n'] := by
  induction xs with
  | nil => rfl
  | cons x xs ih =>
    rw [List.map_cons, List.flatten_cons, List.flatMap_cons, List.append_assoc, List.append_assoc,
      ← ih]
    rfl

theorem sectionText_eq (h : ∀ entry ∈ S.2, valueText entry.2 = .ok (charsOf entry.2)) :
    sectionText S.1 S.2 = .ok (sectionChars S ++ ['\n']) := by
  rw [sectionText, mapM_eq_ok fun entry hentry => entryText_eq (h entry hentry), sectionChars]
  simp [← newline_cons_flatMap]

theorem documentText_eq (h : IsDocument sections) (hne : sections ≠ []) :
    documentText sections = .ok (String.ofList (documentChars sections ++ ['\n'])) := by
  rw [documentText, mapM_eq_ok fun S hS => sectionText_eq (h.sections S hS).written]
  obtain ⟨S, sections, rfl⟩ := List.exists_cons_of_ne_nil hne
  clear h hne
  refine congrArg (fun s => Except.ok (String.ofList s)) ?_
  induction sections generalizing S with
  | nil => simp [documentChars]
  | cons S' sections ih =>
    have hnext := ih S'
    rw [List.map_cons] at hnext
    rw [List.map_cons, List.map_cons, List.intercalate_cons_cons, hnext]
    simp [documentChars]

def IsTooLarge (v : Toml) : Prop :=
  ∃ k : ℤ, v = .int k ∧ Nat.pow 2 63 ≤ k

theorem IsTooLarge.valueText_eq (h : v.IsTooLarge) : valueText v = .error .tooLarge := by
  obtain ⟨k, rfl, hk⟩ := h
  exact if_neg (Int.not_lt.mpr hk)

theorem valueText_of_not_isTooLarge (hv : v.IsScalar) (h : ¬v.IsTooLarge) :
    valueText v = .ok (charsOf v) := by
  cases v with
  | int k =>
    have hk : k < Nat.pow 2 63 := Int.not_le.mp fun hk => h ⟨k, rfl, hk⟩
    rw [charsOf, valueText, if_pos hk]
    rfl
  | string s => rfl
  | float x => rfl
  | bool b => rfl
  | datetime s => rfl
  | array items => exact hv.elim
  | table members => exact hv.elim

theorem eq_tooLarge (hv : v.IsScalar) {problem : WriteError} (h : valueText v = .error problem) :
    problem = .tooLarge := by
  by_cases hlarge : v.IsTooLarge
  · rw [hlarge.valueText_eq] at h
    exact (Except.error.inj h).symm
  · rw [valueText_of_not_isTooLarge hv hlarge] at h
    cases h

theorem entryText_error {problem : WriteError} :
    entryText name v = .error problem ↔ valueText v = .error problem := by
  rw [entryText]
  cases valueText v <;> simp [bind, Except.bind, pure, Except.pure]

theorem sectionText_error (hscalar : ∀ entry ∈ S.2, entry.2.IsScalar)
    (hlarge : ∃ entry ∈ S.2, entry.2.IsTooLarge) : sectionText S.1 S.2 = .error .tooLarge := by
  obtain ⟨entry, hentry, hlarge⟩ := hlarge
  have herror : (S.2.mapM fun entry => entryText entry.1 entry.2) = .error .tooLarge :=
    mapM_eq_error (fun entry hentry problem h =>
      eq_tooLarge (hscalar entry hentry) (entryText_error.mp h)) hentry
      (entryText_error.mpr hlarge.valueText_eq)
  rw [sectionText, herror]
  rfl

theorem documentText_error (hscalar : ∀ S ∈ sections, ∀ entry ∈ S.2, entry.2.IsScalar)
    (hlarge : ∃ S ∈ sections, ∃ entry ∈ S.2, entry.2.IsTooLarge) :
    documentText sections = .error .tooLarge := by
  have hproblem (S : Section) (hS : S ∈ sections) (problem : WriteError)
      (h : sectionText S.1 S.2 = .error problem) : problem = .tooLarge := by
    by_cases hlarge : ∃ entry ∈ S.2, entry.2.IsTooLarge
    · rw [sectionText_error (hscalar S hS) hlarge] at h
      exact (Except.error.inj h).symm
    · have hwritten := sectionText_eq fun entry hentry => valueText_of_not_isTooLarge
        (hscalar S hS entry hentry) fun hent => hlarge ⟨entry, hentry, hent⟩
      rw [hwritten] at h
      cases h
  obtain ⟨S, hS, hlarge⟩ := hlarge
  rw [documentText, mapM_eq_error hproblem hS (sectionText_error (hscalar S hS) hlarge)]
  rfl

theorem indent_trimEnd_documentChars (h : IsDocument sections) (hne : sections ≠ []) (n : ℕ) :
    Text.indent (String.ofList (List.replicate n ' '))
        (String.ofList (Unicode.trimEnd (documentChars sections ++ ['\n']))) =
      String.ofList (List.replicate n ' ' ++ inset n (documentChars sections)) := by
  have hreturn : '\r' ∉ documentChars sections := fun hmem =>
    absurd (isText_documentChars h '\r' hmem) (by decide)
  obtain ⟨body, c, heq, hc⟩ := endsInInk_documentChars h hne
  have htrim : Unicode.trimEnd (documentChars sections ++ ['\n']) = documentChars sections := by
    rw [heq, List.append_assoc, List.singleton_append, Unicode.trimEnd_append_cons hc.2]
    rfl
  rw [htrim, Text.indent_eq n hreturn (by simp [heq]) (by simpa [heq] using hc.ne_newline)]

end PromptRelay.Toml
