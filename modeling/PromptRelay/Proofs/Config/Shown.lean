import PromptRelay.Proofs.Config.Tables

namespace PromptRelay

namespace Config

def shiftText (n : ℕ) (s : String) : String :=
  String.ofList (Text.shifted n s.toList)

def mapTexts (f : String → String) (c : Config) : Config :=
  { c with
    server.host := f c.server.host
    requests.systemPrompt := f c.requests.systemPrompt
    remote.baseUrl := f c.remote.baseUrl
    remote.model := f c.remote.model
    remote.keyVariable := f c.remote.keyVariable
    onDevice.modelPath := f c.onDevice.modelPath
    transcript := c.transcript.map f }

def texts (c : Config) : List String :=
  [c.server.host, c.requests.systemPrompt, c.remote.baseUrl, c.remote.model, c.remote.keyVariable,
    c.onDevice.modelPath] ++ c.transcript.toList

def sizes (c : Config) : List ℕ :=
  c.requests.timeoutSeconds.toList ++ [c.requests.readBufferSize, c.remote.timeoutSeconds]

def IsWritable (c : Config) : Prop :=
  ∀ n ∈ c.sizes, n < Nat.pow 2 63

instance (c : Config) : Decidable c.IsWritable :=
  inferInstanceAs (Decidable (∀ n ∈ c.sizes, n < Nat.pow 2 63))

variable {c : Config} {n : ℕ}

theorem mapTexts_eq_self_iff {f : String → String} :
    c.mapTexts f = c ↔ ∀ s ∈ c.texts, f s = s := by
  obtain ⟨⟨_, _, _⟩, ⟨_, _, _, _⟩, _, ⟨_, _, _, _⟩, ⟨_, _, _, _⟩, transcript⟩ := c
  cases transcript <;> simp [mapTexts, texts, and_assoc]

theorem shiftText_eq_self_iff (hn : 0 < n) {s : String} : shiftText n s = s ↔ '\n' ∉ s.toList := by
  rw [← Text.shifted_eq_self_iff hn, shiftText, ← String.toList_inj, String.toList_ofList]

theorem Fits.mapTexts (h : c.Fits) (f : String → String) : (c.mapTexts f).Fits :=
  ⟨h.port, h.maxTokens, h.temperature, h.topP, h.repeatPenalty, h.requestTimeout, h.readBufferSize,
    h.remoteTimeout, h.contextSize, h.threads⟩

theorem shiftText_of_not_mem {s : String} (h : '\n' ∉ s.toList) : shiftText n s = s := by
  rw [shiftText, Text.shifted_of_not_mem h, String.ofList_toList]

theorem setValues_map (n : ℕ) (entries : List (String × Option Toml)) :
    (setValues entries).map (fun entry => (entry.1, entry.2.shift n)) =
      setValues (entries.map fun entry => (entry.1, entry.2.map (Toml.shift n))) := by
  simp [setValues, List.map_filterMap, List.filterMap_map, Function.comp_def]

theorem toSections_mapTexts (c : Config) (n : ℕ) :
    (c.mapTexts (shiftText n)).toSections = c.toSections.map fun S =>
      (S.1, S.2.map fun entry => (entry.1, entry.2.map (Toml.shift n))) := by
  have hstring (s : String) : Toml.shift n (.string s) = .string (shiftText n s) := rfl
  have hnatural (k : ℕ) : Toml.shift n (natural k) = natural k := rfl
  have hdecimal (x : Binary) : Toml.shift n (decimal x) = decimal x := rfl
  have hbool (b : Bool) : Toml.shift n (.bool b) = .bool b := rfl
  have hkind (kind : BackendKind) : shiftText n kind.name = kind.name :=
    shiftText_of_not_mem (by cases kind <;> decide)
  have hprofile (profile : Profile) : shiftText n profile.name = profile.name :=
    shiftText_of_not_mem (by cases profile <;> decide)
  simp [toSections, mapTexts, hstring, hnatural, hdecimal, hbool, hkind, hprofile,
    Function.comp_def]

theorem tables_mapTexts (c : Config) (n : ℕ) :
    (c.mapTexts (shiftText n)).tables = c.tables.map (Toml.shiftSection n) := by
  simp [tables, toSections_mapTexts, Toml.shiftSection, setValues_map]

theorem not_isTooLarge_iff (h : c.Fits) :
    (∀ S ∈ c.tables, ∀ entry ∈ S.2, ¬entry.2.IsTooLarge) ↔ c.IsWritable := by
  have hnatural (k : ℕ) : ¬(natural k).IsTooLarge ↔ k < Nat.pow 2 63 := by
    rw [← Nat.not_le, not_iff_not]
    refine ⟨?_, fun hk => ⟨k, rfl, Int.ofNat_le.mpr hk⟩⟩
    rintro ⟨k', heq, hk⟩
    obtain rfl : (k : ℤ) = k' := Toml.int.inj heq
    exact Int.ofNat_le.mp hk
  have hdecimal (x : Binary) : ¬(decimal x).IsTooLarge := fun ⟨_, heq, _⟩ => by cases heq
  have hstring (s : String) : ¬(Toml.string s).IsTooLarge := fun ⟨_, heq, _⟩ => by cases heq
  have hbool (b : Bool) : ¬(Toml.bool b).IsTooLarge := fun ⟨_, heq, _⟩ => by cases heq
  have hnumbers : (c.server.port < Nat.pow 2 63 ∧
      (c.requests.sampling.maxTokens < Nat.pow 2 63 ∧
        (∀ n, c.requests.timeoutSeconds = some n → n < Nat.pow 2 63) ∧
        c.requests.readBufferSize < Nat.pow 2 63) ∧
      c.remote.timeoutSeconds < Nat.pow 2 63 ∧
      (∀ n, c.onDevice.contextSize = some n → n < Nat.pow 2 63) ∧
      c.onDevice.threads < Nat.pow 2 63) ↔
      (∀ n, c.requests.timeoutSeconds = some n → n < Nat.pow 2 63) ∧
        c.requests.readBufferSize < Nat.pow 2 63 ∧ c.remote.timeoutSeconds < Nat.pow 2 63 := by
    refine ⟨fun h => ⟨h.2.1.2.1, h.2.1.2.2, h.2.2.1⟩, fun hsizes => ?_⟩
    exact ⟨h.port.trans (by decide), ⟨h.maxTokens.trans (by decide), hsizes.1, hsizes.2.1⟩,
      hsizes.2.2, fun n hn => (h.contextSize n hn).trans (by decide), h.threads.trans (by decide)⟩
  rw [forall_mem_tables (p := fun v => ¬v.IsTooLarge)]
  simp only [toSections, List.forall_mem_cons]
  simpa [IsWritable, sizes, hnatural, hdecimal, hstring, hbool, or_imp, forall_and] using hnumbers

theorem isDocument_tables (h : c.Fits) (hwritable : c.IsWritable) : Toml.IsDocument c.tables := by
  have hsmall := (not_isTooLarge_iff h).mpr hwritable
  refine ⟨nodup_names.1, fun S hS => ?_⟩
  have hscalar := isScalar_of_mem_tables c S hS
  have hwritten : ∀ entry ∈ S.2, Toml.valueText entry.2 = .ok (Toml.charsOf entry.2) :=
    fun entry hentry =>
      Toml.valueText_of_not_isTooLarge (hscalar entry hentry) (hsmall S hS entry hentry)
  obtain ⟨T, hT, rfl⟩ := List.mem_map.mp hS
  have hsublist := sublist_setValues T.2
  have hbare : ∀ N ∈ names, Toml.IsBare N.1 ∧ ∀ key ∈ N.2, Toml.IsBare key := by decide
  exact {
    name := (hbare _ (mem_names hT)).1
    distinct := hsublist.nodup (nodup_names.2 _ (mem_names hT))
    bare := fun entry hentry =>
      (hbare _ (mem_names hT)).2 _ (hsublist.subset (List.mem_map_of_mem hentry))
    scalar := hscalar
    written := hwritten }

theorem ofToml?_documentChars (h : c.Fits) (hwritable : c.IsWritable) (n : ℕ) (rest : List Char)
    (hrest : ∀ d ∈ rest, d = '\n') :
    ofToml? (String.ofList (List.replicate n ' ' ++
      (Text.inset n (Toml.documentChars c.tables) ++ rest))) = some (c.mapTexts (shiftText n)) := by
  have hread :=
    Toml.read?_documentChars (isDocument_tables h hwritable) (List.cons_ne_nil _ _) n hrest
  have htables : (c.tables.map fun S => (S.1, Toml.table (Toml.shiftSection n S).2)) =
      (c.mapTexts (shiftText n)).tables.map fun S => (S.1, Toml.table S.2) := by
    rw [tables_mapTexts, List.map_map]
    rfl
  rw [ofToml?, hread, htables]
  simp [ofSetting_tables (h.mapTexts (shiftText n)), Except.toOption]

theorem text_of_isWritable (h : c.Fits) (hwritable : c.IsWritable) :
    c.text = .ok (String.ofList (Toml.documentChars c.tables ++ ['\n'])) := by
  rw [text_eq]
  exact Toml.documentText_eq (isDocument_tables h hwritable) (List.cons_ne_nil _ _)

theorem text_of_not_isWritable (h : c.Fits) (hlarge : ¬c.IsWritable) :
    c.text = .error .tooLarge := by
  rw [← not_isTooLarge_iff h] at hlarge
  push Not at hlarge
  exact Toml.documentText_error (isScalar_of_mem_tables c) hlarge

theorem ofToml?_text (h : c.Fits) (hwritable : c.IsWritable) :
    ∃ text, c.text = .ok text ∧ ofToml? text = some c := by
  refine ⟨_, text_of_isWritable h hwritable, ?_⟩
  have hread := ofToml?_documentChars h hwritable 0 ['\n'] (by simp)
  have hself : c.mapTexts (shiftText 0) = c := mapTexts_eq_self_iff.mpr fun s _ => by
    rw [shiftText, Text.shifted_zero, String.ofList_toList]
  rw [hself, Text.inset_zero, List.replicate_zero, List.nil_append] at hread
  exact hread

def shown (text : String) : String :=
  Text.indent "  " (String.ofList (Unicode.trimEnd text.toList)) ++ "\n\n"

theorem ofToml?_shown (h : c.Fits) (hwritable : c.IsWritable) {text : String}
    (htext : c.text = .ok text) : ofToml? (shown text) = some (c.mapTexts (shiftText 2)) := by
  have hread := ofToml?_documentChars h hwritable 2 ['\n', '\n'] (by simp)
  have hindent := Toml.indent_trimEnd_documentChars (isDocument_tables h hwritable)
    (List.cons_ne_nil _ _) 2
  obtain rfl := Except.ok.inj ((text_of_isWritable h hwritable).symm.trans htext)
  have hmargin : "  " = String.ofList (List.replicate 2 ' ') := rfl
  have hend : "\n\n" = String.ofList ['\n', '\n'] := rfl
  rw [shown, String.toList_ofList, hmargin, hindent, hend, ← String.ofList_append,
    List.append_assoc]
  exact hread

end Config

namespace Program

def heading (colors : Bool) : String :=
  "\n" ++ Console.styled colors .bold "Effective configuration:" ++ "\n"

/-- A run succeeds, and what it shows from some place on reads as a configuration. -/
def Ending.Shows (e : Ending) (before : String) (c : Config) : Prop :=
  ∃ text, e = { output := before ++ text } ∧ Config.ofToml? text = some c

variable {w w' : Surroundings} {arguments : List String} {line : CommandLine} {c : Config}

theorem withLogDirectory_eq_self (hfile : VariablesFile.find? w.files w.here = none)
    (hnone : line.logDirectory = none) :
    withLogDirectory (withVariablesFile w) line = .ok w := by
  rw [withVariablesFile, hfile, withLogDirectory, hnone]

theorem start_eq (terminal : Bool) (hline : CommandLine.read arguments = .ok line)
    (hshow : line.showConfig = true)
    (hw : withLogDirectory (withVariablesFile w) line = .ok w')
    (hc : configuration w' line = .ok c) : start w arguments terminal =
      .error (showConfiguration w' line (Console.areColorsShown w'.environment terminal) c) := by
  simp [start, hline, hw, hc, hshow, Except.mapError, bind, Except.bind]

theorem Ending.ofText_ok (sources : String) (colors : Bool) (text : String) :
    Ending.ofText sources colors (.ok text) =
      { output := sources ++ heading colors ++ Config.shown text } := by
  have hends : "\n\n" = "\n" ++ "\n" := rfl
  simp only [Ending.ofText, heading, Config.shown, Console.effective, hends, String.append_assoc]

theorem start_showConfig (terminal : Bool) (hline : CommandLine.read arguments = .ok line)
    (hshow : line.showConfig = true)
    (hw : withLogDirectory (withVariablesFile w) line = .ok w')
    (hc : configuration w' line = .ok c) :
    let colors := Console.areColorsShown w'.environment terminal
    let before := sourcesShown w' line colors ++ heading colors
    ∃ ending, start w arguments terminal = .error ending ∧
      (c.IsWritable → ending.Shows before (c.mapTexts (Config.shiftText 2))) ∧
      (¬c.IsWritable → ending = .failure (sourcesShown w' line colors)
        "Failed to render configuration" ["out-of-range value for u64 type"]) ∧
      (ending.Shows before c ↔ c.IsWritable ∧ ∀ s ∈ c.texts, '\n' ∉ s.toList) := by
  intro colors before
  have hfits := Config.fits_of_configuration hline hc
  refine ⟨_, start_eq terminal hline hshow hw hc, ?_⟩
  by_cases hwritable : c.IsWritable
  · obtain ⟨text, htext, -⟩ := Config.ofToml?_text hfits hwritable
    have hread := Config.ofToml?_shown hfits hwritable htext
    rw [showConfiguration, htext, Ending.ofText_ok]
    refine ⟨fun _ => ⟨_, rfl, hread⟩, fun hlarge => absurd hwritable hlarge, ?_⟩
    have hsame : c.mapTexts (Config.shiftText 2) = c ↔ ∀ s ∈ c.texts, '\n' ∉ s.toList := by
      rw [Config.mapTexts_eq_self_iff]
      exact forall₂_congr fun s _ => Config.shiftText_eq_self_iff two_pos
    rw [← hsame]
    constructor
    · rintro ⟨text', heq, hread'⟩
      have houtput : before ++ Config.shown text = before ++ text' := congrArg Ending.output heq
      have hlists : before.toList ++ (Config.shown text).toList =
          before.toList ++ text'.toList := by
        rw [← String.toList_append, houtput, String.toList_append]
      obtain rfl : Config.shown text = text' :=
        String.toList_inj.mp (List.append_cancel_left hlists)
      exact ⟨hwritable, Option.some.inj (hread.symm.trans hread')⟩
    · rintro ⟨-, hself⟩
      rw [hself] at hread
      exact ⟨_, rfl, hread⟩
  · rw [showConfiguration, Config.text_of_not_isWritable hfits hwritable]
    refine ⟨fun h => absurd h hwritable, fun _ => rfl, ?_⟩
    constructor
    · rintro ⟨text, heq, -⟩
      have hcode : 1 = 0 := congrArg Ending.code heq
      cases hcode
    · exact fun h => absurd h.1 hwritable

def twoLines : Surroundings where
  files := FileTree.addFile {} ["work", "kernel-bridge.toml"]
    "[dispatch]\nsystem_prompt = \"a\\nb\"\n".toUTF8.toList
  here := ["work"]
  environment := []

def twoLinesConfig : Config where
  requests := { systemPrompt := "a\nb" }

theorem start_showConfig_twoLines :
    CommandLine.read ["--show-config"] = .ok { showConfig := true } ∧
      configuration twoLines { showConfig := true } = .ok twoLinesConfig ∧
      ∃ ending, start twoLines ["--show-config"] false = .error ending ∧
        ending.Shows (sourcesShown twoLines { showConfig := true } false ++ heading false)
          (twoLinesConfig.mapTexts (Config.shiftText 2)) ∧
        ¬ending.Shows (sourcesShown twoLines { showConfig := true } false ++ heading false)
          twoLinesConfig := by
  have hline : CommandLine.read ["--show-config"] = .ok { showConfig := true } := by decide +kernel
  have hc : configuration twoLines { showConfig := true } = .ok twoLinesConfig := by decide +kernel
  have hw : withLogDirectory (withVariablesFile twoLines) { showConfig := true } = .ok twoLines :=
    withLogDirectory_eq_self (by decide +kernel) rfl
  obtain ⟨ending, hstart, hshows, -, hsame⟩ := start_showConfig false hline rfl hw hc
  exact ⟨hline, hc, ending, hstart, hshows (by decide), fun h => absurd (hsame.mp h).2 (by decide)⟩

def longWait : Surroundings where
  files := {}
  here := ["work"]
  environment := [("KERNEL_BRIDGE_REMOTE__TIMEOUT_SECS", "18446744073709551615")]

def longWaitConfig : Config where
  remote := { timeoutSeconds := 18446744073709551615 }

theorem showConfig_deviates :
    (configuration twoLines { showConfig := true } = .ok twoLinesConfig ∧
      ∃ text, start twoLines ["--show-config"] false = .error
          { output :=
              sourcesShown twoLines { showConfig := true } false ++ heading false ++ text } ∧
        Config.ofToml? text = some { requests := { systemPrompt := "  a\n  b" } }) ∧
    configuration longWait { showConfig := true } = .ok longWaitConfig ∧
      start longWait ["--show-config"] false =
        .error (.failure (sourcesShown longWait { showConfig := true } false)
          "Failed to render configuration" ["out-of-range value for u64 type"]) := by
  have hline : CommandLine.read ["--show-config"] = .ok { showConfig := true } := by decide +kernel
  constructor
  · have hc : configuration twoLines { showConfig := true } = .ok twoLinesConfig := by
      decide +kernel
    have hfits := Config.fits_of_configuration hline hc
    obtain ⟨text, htext, -⟩ := Config.ofToml?_text hfits (by decide)
    have hread := Config.ofToml?_shown hfits (by decide) htext
    have hcolors : Console.areColorsShown twoLines.environment false = false := rfl
    refine ⟨hc, Config.shown text, ?_, hread.trans (by decide +kernel)⟩
    rw [start_eq false hline rfl (withLogDirectory_eq_self (by decide +kernel) rfl) hc, hcolors,
      showConfiguration, htext, Ending.ofText_ok]
  · have hc : configuration longWait { showConfig := true } = .ok longWaitConfig := by
      decide +kernel
    have hfits := Config.fits_of_configuration hline hc
    have hlarge := Config.text_of_not_isWritable hfits (by decide)
    have hcolors : Console.areColorsShown longWait.environment false = false := rfl
    rw [start_eq false hline rfl (withLogDirectory_eq_self (by decide +kernel) rfl) hc, hcolors,
      showConfiguration, hlarge]
    exact ⟨hc, rfl⟩

end Program

end PromptRelay
