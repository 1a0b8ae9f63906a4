import PromptRelay.Proofs.Config.Schema
import PromptRelay.Proofs.Config.Sources

namespace PromptRelay

namespace Setting

def isTable : Setting → Bool
  | dict [(name, string _)] => name ≠ "$__toml_private_datetime"
  | dict _ => true
  | _ => false

def isPlainAt : List String → Setting → Bool
  | [], v => !v.isTable
  | name :: path, dict ms => (ms.lookup name).all (isPlainAt path)
  | _ :: _, _ => false

variable {a b v : Setting} {ms : List (String × Setting)} {name : String} {path : List String}

theorem eq_date_of_isPlainAt (h : (dict ms).isPlainAt [] = true) :
    ∃ s, ms = [("$__toml_private_datetime", string s)] := by
  unfold isPlainAt isTable at h
  split at h
  next n s heq =>
    obtain rfl := dict.inj heq
    simp only [ne_eq, decide_not, Bool.not_not, decide_eq_true_eq] at h
    exact ⟨s, by rw [h]⟩
  next => cases h
  next hne => exact absurd rfl (hne ms)

theorem merge_of_isPlainAt (ha : a.isPlainAt [] = true) (hb : b.isPlainAt [] = true) :
    a.merge b = b := by
  cases b with
  | dict members =>
    obtain ⟨s, rfl⟩ := eq_date_of_isPlainAt hb
    cases a with
    | dict ms =>
      obtain ⟨s', rfl⟩ := eq_date_of_isPlainAt ha
      rw [merge_dict, mergeMembers, mergeMembers, put, if_pos rfl]
      have hne : ∀ ms, string s ≠ dict ms := by simp
      simp only [merge_of_ne_dict (string s') hne]
    | _ => exact merge_dict_of_ne (by simp) _
  | _ => exact merge_of_ne_dict a (by simp)

theorem IsSorted.lookup (h : IsSorted (.dict ms)) (hname : ms.lookup name = some v) :
    IsSorted v :=
  (isSorted_dict.mp h).2 (name, v) (mem_of_lookup hname)

theorem isPlainAt_of_lookup (h : (dict ms).isPlainAt (name :: path) = true)
    (hname : ms.lookup name = some v) : v.isPlainAt path = true := by
  rw [isPlainAt, hname] at h
  exact h

theorem at?_merge (ha : IsSorted a) (hb : IsSorted b) (hplain : a.isPlainAt path = true)
    (hplain' : b.isPlainAt path = true) :
    (a.merge b).at? path = (b.at? path).or (a.at? path) ∧ (a.merge b).isPlainAt path = true := by
  induction path generalizing a b with
  | nil =>
    rw [merge_of_isPlainAt hplain hplain']
    exact ⟨rfl, hplain'⟩
  | cons name path ih =>
    cases a with
    | dict ms =>
      cases b with
      | dict members =>
        have hlookup :=
          lookup_mergeMembers (isSorted_dict.mp ha).1 (isSorted_dict.mp hb).1.nodup name
        rw [merge_dict, at?, at?, at?, isPlainAt]
        cases hlow : ms.lookup name <;> cases hhigh : members.lookup name <;>
          rw [hlow, hhigh] at hlookup <;> rw [hlookup]
        case none.none => exact ⟨rfl, rfl⟩
        case none.some v => exact ⟨Option.or_none.symm, isPlainAt_of_lookup hplain' hhigh⟩
        case some.none old => exact ⟨rfl, isPlainAt_of_lookup hplain hlow⟩
        case some.some old v =>
          exact ih (ha.lookup hlow) (hb.lookup hhigh) (isPlainAt_of_lookup hplain hlow)
            (isPlainAt_of_lookup hplain' hhigh)
      | _ => cases hplain'
    | _ => cases hplain

structure IsLayer (path : List String) (v : Setting) : Prop where
  sorted : IsSorted v
  plain : v.isPlainAt path = true

theorem at?_nil : (dict []).at? (name :: path) = none :=
  rfl

theorem IsLayer.nil : IsLayer (name :: path) (dict []) :=
  ⟨isSorted_nil, rfl⟩

theorem IsLayer.merge (ha : IsLayer path a) (hb : IsLayer path b) : IsLayer path (a.merge b) :=
  ⟨hb.sorted.merge a ha.sorted, (at?_merge ha.sorted hb.sorted ha.plain hb.plain).2⟩

theorem IsLayer.at?_merge (ha : IsLayer path a) (hb : IsLayer path b) :
    (a.merge b).at? path = (b.at? path).or (a.at? path) :=
  (Setting.at?_merge ha.sorted hb.sorted ha.plain hb.plain).1

theorem IsLayer.exists_dict (h : IsLayer (name :: path) v) : ∃ ms, v = dict ms := by
  cases v with
  | dict ms => exact ⟨ms, rfl⟩
  | _ => cases h.plain

theorem IsLayer.lookup (h : IsLayer (name :: path) (dict ms)) (hname : ms.lookup name = some v) :
    IsLayer path v :=
  ⟨h.sorted.lookup hname, isPlainAt_of_lookup h.plain hname⟩

variable {layers : List Setting}

theorem IsLayer.foldl_merge (ha : IsLayer path a) (hlayers : ∀ b ∈ layers, IsLayer path b) :
    IsLayer path (layers.foldl Setting.merge a) := by
  induction layers generalizing a with
  | nil => exact ha
  | cons b layers ih =>
    rw [List.forall_mem_cons] at hlayers
    exact ih (ha.merge hlayers.1) hlayers.2

theorem at?_foldl_merge (ha : IsLayer path a) (hlayers : ∀ b ∈ layers, IsLayer path b) :
    (layers.foldl Setting.merge a).at? path
      = (layers.reverse.findSome? (at? path)).or (a.at? path) := by
  induction layers generalizing a with
  | nil => rfl
  | cons b layers ih =>
    rw [List.forall_mem_cons] at hlayers
    rw [List.foldl_cons, ih (ha.merge hlayers.1) hlayers.2, ha.at?_merge hlayers.1,
      List.reverse_cons, List.findSome?_append, List.findSome?_singleton, Option.or_assoc]

end Setting

namespace Config

open Setting (at? IsSorted IsLayer)

/-- The layers of a configuration below the command line, the highest first: variables, of which the
later is higher, the file that the command line names, that of the project and that of the user. -/
def layers (w : Surroundings) (line : CommandLine) : List Setting :=
  if line.noConfig then []
  else (w.environment.filterMap Variables.layer?).reverse
    ++ (line.config.toList ++ (projectPath? w).toList
      ++ ((globalPath? w).filter w.pathExists).toList).filterMap (layerSettings? w)

def IsTabular (layer : Setting) : Prop :=
  ∀ S ∈ schema, ∀ F ∈ S.fields, layer.isPlainAt [S.name, F.name] = true

instance (layer : Setting) : Decidable (IsTabular layer) :=
  inferInstanceAs (Decidable (∀ S ∈ schema, _))

theorem filterMap_of_mapM {α β : Type} {f : α → Option β} {xs : List α} {ys : List β}
    (h : xs.mapM f = some ys) : xs.filterMap f = ys := by
  induction xs generalizing ys with
  | nil => exact Option.some.inj h
  | cons x xs ih =>
    rw [List.mapM_cons] at h
    obtain ⟨y, hy, h⟩ := Option.bind_eq_some_iff.mp h
    obtain ⟨zs, hzs, h⟩ := Option.bind_eq_some_iff.mp h
    obtain rfl := Option.some.inj h
    rw [List.filterMap_cons_some hy, ih hzs]

variable {w : Surroundings} {line : CommandLine} {c : Config}

theorem isSorted_of_mem_layers {v : Setting} (h : v ∈ layers w line) : IsSorted v := by
  unfold layers at h
  split_ifs at h
  · cases h
  · rcases List.mem_append.mp h with hvariable | hfile
    · obtain ⟨entry, -, hentry⟩ := List.mem_filterMap.mp (List.mem_reverse.mp hvariable)
      exact Variables.isSorted_layer? hentry
    · obtain ⟨path, -, hpath⟩ := List.mem_filterMap.mp hfile
      exact isSorted_layerSettings? hpath

theorem layers_eq (hline : line.noConfig = false) {files : List Setting}
    (hfiles : (layerPaths w line.config).mapM (layerSettings? w) = some files) :
    layers w line = (w.environment.filterMap Variables.layer?).reverse ++ files.reverse := by
  have hpaths : line.config.toList ++ (projectPath? w).toList
      ++ ((globalPath? w).filter w.pathExists).toList = (layerPaths w line.config).reverse := by
    have hreverse (path : Option String) : path.toList.reverse = path.toList := by
      cases path <;> rfl
    simp [layerPaths, hreverse]
  rw [layers, hline, if_neg Bool.false_ne_true, hpaths, List.filterMap_reverse,
    filterMap_of_mapM hfiles]

theorem exists_merged (hline : line.noConfig = false) (h : load w line.config = .ok c) :
    ∃ merged, ofSetting .first merged = .ok c ∧ ∀ name path,
      (∀ layer ∈ layers w line, layer.isPlainAt (name :: path) = true) →
        IsLayer (name :: path) merged
          ∧ merged.at? (name :: path) = (layers w line).findSome? (at? (name :: path)) := by
  unfold load at h
  cases hfiles : (layerPaths w line.config).mapM (layerSettings? w) with
  | none =>
    rw [hfiles] at h
    cases h
  | some files =>
    rw [hfiles] at h
    refine ⟨_, h, ?_⟩
    intro name path hplain
    have hlayer : ∀ layer ∈ layers w line, IsLayer (name :: path) layer :=
      fun layer hmem => ⟨isSorted_of_mem_layers hmem, hplain layer hmem⟩
    rw [layers_eq hline hfiles] at hlayer ⊢
    have hvariables : ∀ layer ∈ w.environment.filterMap Variables.layer?,
        IsLayer (name :: path) layer := fun layer hmem =>
      hlayer layer (List.mem_append_left _ (List.mem_reverse.mpr hmem))
    have hfile : ∀ layer ∈ files, IsLayer (name :: path) layer := fun layer hmem =>
      hlayer layer (List.mem_append_right _ (List.mem_reverse.mpr hmem))
    have hbelow := IsLayer.nil.foldl_merge hfile
    have habove := IsLayer.nil.foldl_merge hvariables
    rw [mergeLayers, List.foldl_append, List.foldl_cons, List.foldl_nil,
      Variables.settings_eq_foldl]
    refine ⟨hbelow.merge habove, ?_⟩
    rw [hbelow.at?_merge habove, Setting.at?_foldl_merge .nil hvariables,
      Setting.at?_foldl_merge .nil hfile, List.findSome?_append, Setting.at?_nil, Option.or_none,
      Option.or_none]

theorem takes_of_ofSetting {v : Setting} (h : ofSetting .first v = .ok c) {S : Section}
    (hS : S ∈ schema) {F : Field S.Value} (hF : F ∈ S.fields)
    (hv : IsLayer [S.name, F.name] v) :
    F.Takes (v.at? [S.name, F.name]) (S.get {}) (S.get c) := by
  obtain ⟨ms, rfl⟩ := hv.exists_dict
  rw [ofSetting, sections_eq] at h
  have hsection := Field.takes_of_record independent_schema (List.mem_map_of_mem hS)
    (Setting.isSorted_dict.mp hv.sorted).1.nodup h
  rw [at?]
  change S.field.Takes (ms.lookup S.name) _ _ at hsection
  cases hlookup : ms.lookup S.name with
  | none =>
    rw [hlookup] at hsection
    exact congrArg F.get hsection
  | some table =>
    rw [hlookup] at hsection
    have htable : IsLayer [F.name] table := hv.lookup hlookup
    obtain ⟨members, rfl⟩ := htable.exists_dict
    have hread : SettingReader.record S.type (S.fields.map Field.setter) (S.get {})
        (.dict members) = .ok (S.get c) := hsection
    have hsetting := Field.takes_of_record S.independent hF
      (Setting.isSorted_dict.mp htable.sorted).1.nodup hread
    simpa [at?] using hsetting

theorem exists_loaded (h : Program.configuration w line = .ok c) :
    ∃ loaded, (if line.noConfig then .ok {} else load w line.config) = .ok loaded
      ∧ line.override loaded = c := by
  unfold Program.configuration at h
  cases hloaded : if line.noConfig then .ok {} else load w line.config with
  | error e =>
    rw [hloaded] at h
    cases h
  | ok loaded =>
    rw [hloaded] at h
    exact ⟨loaded, rfl, Except.ok.inj h⟩

theorem Field.Takes.congr {α : Type} {F : Field α} {found : Option Setting} {default x y : α}
    (h : F.Takes found default x) (hget : F.get y = F.get x) : F.Takes found default y := by
  cases found with
  | some v => exact h.trans (congrArg Except.ok hget.symm)
  | none => exact hget.trans h

def Field.Follows {α : Type} (F : Field α) (line : CommandLine) (found : Option Setting)
    (default x : α) : Prop :=
  match F.flag line with
  | some value => F.get x = value
  | none => F.Takes found default x

theorem configuration_layered (h : Program.configuration w line = .ok c)
    (hlayers : ∀ layer ∈ layers w line, IsTabular layer) :
    (∀ S ∈ schema, ∀ F ∈ S.fields,
      F.Follows line ((layers w line).findSome? (at? [S.name, F.name])) (S.get {}) (S.get c))
      ∧ ∀ c', (∀ S ∈ schema, ∀ F ∈ S.fields, F.get (S.get c') = F.get (S.get c)) → c' = c := by
  refine ⟨?settings, fun c' => eq_of_settings⟩
  case settings =>
    intro S hS F hF
    obtain ⟨loaded, hloaded, rfl⟩ := exists_loaded h
    have htakes : F.Takes ((layers w line).findSome? (at? [S.name, F.name])) (S.get {})
        (S.get loaded) := by
      split_ifs at hloaded with hline
      · obtain rfl := Except.ok.inj hloaded
        rw [layers, if_pos hline]
        rfl
      · rw [Bool.not_eq_true] at hline
        obtain ⟨merged, hread, hmerged⟩ := exists_merged hline hloaded
        obtain ⟨hlayer, hfound⟩ := hmerged S.name [F.name] fun layer hmem =>
          hlayers layer hmem S hS F hF
        rw [← hfound]
        exact takes_of_ofSetting hread hS hF hlayer
    have hget := get_override line loaded S hS F hF
    unfold Field.Follows
    cases hflag : F.flag line with
    | some value =>
      rw [hflag] at hget
      exact hget
    | none =>
      rw [hflag] at hget
      exact htakes.congr hget

def fiveSources : Surroundings where
  files :=
    let user := "[server]\nhost = \"0.0.0.0\"\nport = 1\n[dispatch]\nmax_tokens = 7\n"
    let project := "[server]\nport = 2\n[remote]\nmodel = \"m\"\n"
    let explicit := "[dispatch]\ntop_p = 0.5\n"
    let files := FileTree.addFile {} ["home", "u", ".config", "kernel-bridge", "config.toml"]
      user.toUTF8.toList
    (files.addFile ["work", "kernel-bridge.toml"] project.toUTF8.toList).addFile
      ["work", "x.toml"] explicit.toUTF8.toList
  here := ["work"]
  environment := [("HOME", "/home/u"), ("KERNEL_BRIDGE_SERVER__PORT", "4000")]

def fiveSourcesLine : CommandLine where
  host := some "::1"
  config := some "x.toml"

def fiveSourcesConfig : Config where
  server := { host := "::1", port := 4000 }
  requests := { sampling := { maxTokens := 7, topP := some (.finite false 8388608 (-24)) } }
  remote := { model := "m" }

theorem configuration_layered_fiveSources :
    Program.configuration fiveSources fiveSourcesLine = .ok fiveSourcesConfig
      ∧ (∀ layer ∈ layers fiveSources fiveSourcesLine, IsTabular layer)
      ∧ (∀ S ∈ schema, ∀ F ∈ S.fields,
        F.Follows fiveSourcesLine
          ((layers fiveSources fiveSourcesLine).findSome? (at? [S.name, F.name]))
          (S.get {}) (S.get fiveSourcesConfig))
      ∧ ∀ c', (∀ S ∈ schema, ∀ F ∈ S.fields, F.get (S.get c') = F.get (S.get fiveSourcesConfig)) →
        c' = fiveSourcesConfig := by
  have hread : Program.configuration fiveSources fiveSourcesLine = .ok fiveSourcesConfig := by
    decide +kernel
  have hlayers : ∀ layer ∈ layers fiveSources fiveSourcesLine, IsTabular layer := by
    decide +kernel
  exact ⟨hread, hlayers, configuration_layered hread hlayers⟩

end Config

end PromptRelay
