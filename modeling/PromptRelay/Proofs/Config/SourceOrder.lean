import PromptRelay.Proofs.Config.Layering

/-!
The sources of a configuration in the order in which they are listed, and in that in which they
override each other. Files are listed from the highest to the lowest. The environment, which is
above all of them, is listed last.
-/

namespace PromptRelay

namespace Setting

variable {a b v : Setting} {name : String} {path : List String} {layers : List Setting}

theorem at?_merge_of_silent (ha : IsSorted a) (hb : IsSorted b) (hplain : b.isPlainAt path = true)
    (hnone : b.at? path = none) : (a.merge b).at? path = a.at? path := by
  induction path generalizing a b with
  | nil => cases hnone
  | cons name path ih =>
    cases b with
    | dict members =>
      cases a with
      | dict ms =>
        have hlookup :=
          lookup_mergeMembers (isSorted_dict.mp ha).1 (isSorted_dict.mp hb).1.nodup name
        rw [at?] at hnone
        rw [merge_dict, at?, at?]
        cases hlow : ms.lookup name <;> cases hhigh : members.lookup name <;>
          rw [hlow, hhigh] at hlookup <;> rw [hlookup]
        case none.some v =>
          rw [hhigh] at hnone
          exact hnone
        case some.some old v =>
          rw [hhigh] at hnone
          exact ih (ha.lookup hlow) (hb.lookup hhigh) (isPlainAt_of_lookup hplain hhigh) hnone
      | _ =>
        rw [merge_dict_of_ne (by simp) members, hnone]
        rfl
    | _ => cases hplain

theorem at?_merge_of_set (ha : IsSorted a) (hb : IsSorted b) (hv : b.at? path = some v)
    (htable : ∀ ms, v ≠ .dict ms) : (a.merge b).at? path = some v := by
  induction path generalizing a b with
  | nil =>
    obtain rfl := Option.some.inj hv
    rw [merge_of_ne_dict a htable]
    rfl
  | cons name path ih =>
    cases b with
    | dict members =>
      cases a with
      | dict ms =>
        have hlookup :=
          lookup_mergeMembers (isSorted_dict.mp ha).1 (isSorted_dict.mp hb).1.nodup name
        rw [at?] at hv
        rw [merge_dict, at?]
        obtain ⟨inner, hhigh, hinner⟩ := Option.bind_eq_some_iff.mp hv
        rw [hhigh] at hlookup
        cases hlow : ms.lookup name with
        | none =>
          rw [hlow] at hlookup
          rw [hlookup]
          exact hinner
        | some old =>
          rw [hlow] at hlookup
          rw [hlookup]
          exact ih (ha.lookup hlow) (hb.lookup hhigh) hinner
      | _ =>
        rw [merge_dict_of_ne (by simp) members]
        exact hv
    | _ => cases hv

theorem IsSorted.foldl_merge (ha : IsSorted a) (hlayers : ∀ b ∈ layers, IsSorted b) :
    IsSorted (layers.foldl Setting.merge a) := by
  induction layers generalizing a with
  | nil => exact ha
  | cons b layers ih =>
    rw [List.forall_mem_cons] at hlayers
    exact ih (hlayers.1.merge a ha) hlayers.2

/-- A layer says nothing of a setting, and what it says leads nowhere else. -/
def IsSilentAt (path : List String) (layer : Setting) : Prop :=
  layer.isPlainAt path = true ∧ layer.at? path = none

theorem at?_foldl_merge_of_silent (ha : IsSorted a) (hsorted : ∀ b ∈ layers, IsSorted b)
    (hsilent : ∀ b ∈ layers, IsSilentAt path b) :
    (layers.foldl Setting.merge a).at? path = a.at? path := by
  induction layers generalizing a with
  | nil => rfl
  | cons b layers ih =>
    rw [List.forall_mem_cons] at hsorted hsilent
    rw [List.foldl_cons, ih (hsorted.1.merge a ha) hsorted.2 hsilent.2,
      at?_merge_of_silent ha hsorted.1 hsilent.1.1 hsilent.1.2]

theorem isPlainAt_of_at? (h : a.at? path = some v) (htable : ∀ ms, v ≠ .dict ms) :
    a.isPlainAt path = true := by
  induction path generalizing a with
  | nil =>
    obtain rfl := Option.some.inj h
    cases a with
    | dict ms => exact absurd rfl (htable ms)
    | _ => rfl
  | cons name path ih =>
    cases a with
    | dict ms =>
      rw [at?] at h
      obtain ⟨inner, hname, hinner⟩ := Option.bind_eq_some_iff.mp h
      rw [isPlainAt, hname]
      exact ih hinner
    | _ => cases h

end Setting

namespace Config

open Setting (at? IsSorted IsLayer IsSilentAt)

inductive Source where
  | explicit (path : String)
  | project (path : Option String)
  | global (path : String)
  | environment
  deriving DecidableEq

namespace Source

def label : Source → String
  | explicit path => "Explicit: " ++ path
  | project (some path) => "Project: " ++ path
  | project none => "Project: " ++ " or ".intercalate (projectNames.map ("./" ++ ·))
  | global path => "Global:  " ++ path
  | environment => "Env:     " ++ Variables.start ++ "*"

def isFound (w : Surroundings) : Source → Bool
  | explicit path => w.pathExists path
  | project path => path.isSome
  | global path => w.pathExists path
  | environment => true

def path? (w : Surroundings) : Source → Option String
  | explicit path => some path
  | project path => path
  | global path => (some path).filter w.pathExists
  | environment => none

def layer? (w : Surroundings) : Source → Option Setting
  | environment => some (Variables.settings w.environment)
  | s => (s.path? w).bind (layerSettings? w)

def Sets (w : Surroundings) (path : List String) (s : Source) (v : Setting) : Prop :=
  ∃ layer, s.layer? w = some layer ∧ layer.at? path = some v ∧ ∀ ms, v ≠ .dict ms

def IsSilent (w : Surroundings) (path : List String) (s : Source) : Prop :=
  ∀ layer, s.layer? w = some layer → IsSilentAt path layer

end Source

def fileSources (w : Surroundings) (explicit : Option String) : List Source :=
  explicit.toList.map .explicit ++ .project (projectPath? w) :: (globalPath? w).toList.map .global

def listedSources (w : Surroundings) (explicit : Option String) : List Source :=
  fileSources w explicit ++ [.environment]

variable {w : Surroundings} {explicit : Option String} {c : Config}

theorem sources_eq (w : Surroundings) (explicit : Option String) :
    sources w explicit = (listedSources w explicit).map fun s => (s.label, s.isFound w) := by
  cases explicit <;> cases hproject : projectPath? w <;> cases hglobal : globalPath? w <;>
    simp [sources, listedSources, fileSources, hproject, hglobal, Source.label, Source.isFound]

theorem layerPaths_eq (w : Surroundings) (explicit : Option String) :
    layerPaths w explicit = ((fileSources w explicit).filterMap (Source.path? w)).reverse := by
  have hglobal (path : Option String) :
      (path.toList.map Source.global).filterMap (Source.path? w)
        = (path.filter w.pathExists).toList := by
    cases path with
    | none => rfl
    | some path => by_cases h : w.pathExists path = true <;> simp [Source.path?, Option.filter, h]
  have hreverse (path : Option String) : path.toList.reverse = path.toList := by
    cases path <;> rfl
  cases explicit <;> cases hproject : projectPath? w <;>
    simp [layerPaths, fileSources, List.filterMap_cons, hproject, hglobal, hreverse, Source.path?]

theorem layer?_of_mem_fileSources {s : Source} (h : s ∈ fileSources w explicit) :
    s.layer? w = (s.path? w).bind (layerSettings? w) := by
  cases s with
  | environment => simp [fileSources] at h
  | _ => rfl

theorem isSorted_layer? {s : Source} {layer : Setting} (h : s.layer? w = some layer) :
    IsSorted layer := by
  cases s with
  | environment =>
    obtain rfl := Option.some.inj h
    rw [Variables.settings_eq_foldl]
    apply Setting.isSorted_nil.foldl_merge
    intro layer hlayer
    obtain ⟨entry, -, hentry⟩ := List.mem_filterMap.mp hlayer
    exact Variables.isSorted_layer? hentry
  | explicit | project | global =>
    rw [Source.layer?] at h
    · obtain ⟨path, -, hpath⟩ := Option.bind_eq_some_iff.mp h
      exact isSorted_layerSettings? hpath
    · simp

def merged (w : Surroundings) (order : List Source) : Setting :=
  (order.filterMap (Source.layer? w)).reverse.foldl Setting.merge (.dict [])

theorem ofSetting_merged (h : load w explicit = .ok c) :
    ofSetting .first (merged w (.environment :: fileSources w explicit)) = .ok c := by
  unfold load at h
  cases hfiles : (layerPaths w explicit).mapM (layerSettings? w) with
  | none =>
    rw [hfiles] at h
    cases h
  | some files =>
    have hlayers : (fileSources w explicit).filterMap (Source.layer? w) = files.reverse := by
      rw [← filterMap_of_mapM hfiles, layerPaths_eq, List.filterMap_reverse, List.reverse_reverse,
        List.filterMap_filterMap]
      exact List.filterMap_congr fun s hs => layer?_of_mem_fileSources hs
    have hall : (Source.environment :: fileSources w explicit).filterMap (Source.layer? w)
        = Variables.settings w.environment :: files.reverse := by
      rw [List.filterMap_cons, Source.layer?, hlayers]
    rw [hfiles] at h
    rw [merged, hall, List.reverse_cons, List.reverse_reverse]
    exact h

theorem isSorted_merged (w : Surroundings) (order : List Source) : IsSorted (merged w order) := by
  apply Setting.isSorted_nil.foldl_merge
  intro layer hlayer
  obtain ⟨s, -, hs⟩ := List.mem_filterMap.mp (List.mem_reverse.mp hlayer)
  exact isSorted_layer? hs

theorem merged_append (w : Surroundings) (upper lower : List Source) :
    merged w (upper ++ lower)
      = (upper.filterMap (Source.layer? w)).reverse.foldl Setting.merge (merged w lower) := by
  rw [merged, List.filterMap_append, List.reverse_append, List.foldl_append, merged]

theorem at?_merged_append {path : List String} {upper : List Source}
    (h : ∀ s ∈ upper, s.IsSilent w path) (lower : List Source) :
    (merged w (upper ++ lower)).at? path = (merged w lower).at? path := by
  rw [merged_append]
  apply Setting.at?_foldl_merge_of_silent (isSorted_merged w lower)
  · intro layer hlayer
    obtain ⟨s, -, hs⟩ := List.mem_filterMap.mp (List.mem_reverse.mp hlayer)
    exact isSorted_layer? hs
  · intro layer hlayer
    obtain ⟨s, hmem, hs⟩ := List.mem_filterMap.mp (List.mem_reverse.mp hlayer)
    exact h s hmem layer hs

theorem at?_merged_of_sets {path : List String} {s : Source} {v : Setting}
    (h : s.Sets w path v) (lower : List Source) : (merged w (s :: lower)).at? path = some v := by
  obtain ⟨layer, hlayer, hv, htable⟩ := h
  have hover : merged w (s :: lower) = (merged w lower).merge layer := by
    rw [← List.singleton_append, merged_append, List.filterMap_cons_some hlayer]
    rfl
  rw [hover]
  exact Setting.at?_merge_of_set (isSorted_merged w lower) (isSorted_layer? hlayer) hv htable

/-- The first source of an order that sets a setting decides it; if none does, the default does. -/
structure Decides (w : Surroundings) (order : List Source) (S : Section) (F : Field S.Value)
    (c : Config) : Prop where
  first : ∀ before s after v, order = before ++ s :: after →
    (∀ t ∈ before, t.IsSilent w [S.name, F.name]) → s.Sets w [S.name, F.name] v →
      F.read v = .ok (F.get (S.get c))
  default : (∀ s ∈ order, s.IsSilent w [S.name, F.name]) → F.get (S.get c) = F.get (S.get {})

theorem decides_of_merged {order : List Source} (h : ofSetting .first (merged w order) = .ok c)
    {S : Section} (hS : S ∈ schema) {F : Field S.Value} (hF : F ∈ S.fields) :
    Decides w order S F c := by
  constructor
  case first =>
    rintro before s after v rfl hbefore hs
    have hat := (at?_merged_append hbefore (s :: after)).trans (at?_merged_of_sets hs after)
    obtain ⟨-, -, -, htable⟩ := hs
    have hlayer : IsLayer [S.name, F.name] (merged w (before ++ s :: after)) :=
      ⟨isSorted_merged _ _, Setting.isPlainAt_of_at? hat htable⟩
    have htakes := takes_of_ofSetting h hS hF hlayer
    rw [hat] at htakes
    exact htakes
  case default =>
    intro hsilent
    have hat := at?_merged_append hsilent []
    rw [List.append_nil] at hat
    have hlayer : IsLayer [S.name, F.name] (merged w order) := by
      apply IsLayer.nil.foldl_merge
      intro layer hmem
      obtain ⟨s, hs, hlayer⟩ := List.mem_filterMap.mp (List.mem_reverse.mp hmem)
      exact ⟨isSorted_layer? hlayer, (hsilent s hs layer hlayer).1⟩
    have htakes := takes_of_ofSetting h hS hF hlayer
    rw [hat] at htakes
    exact htakes

theorem Source.Sets.not_isSilent {path : List String} {s : Source} {v : Setting}
    (h : s.Sets w path v) : ¬s.IsSilent w path := by
  obtain ⟨layer, hlayer, hv, -⟩ := h
  intro hsilent
  rw [(hsilent layer hlayer).2] at hv
  cases hv

theorem Decides.rotate {order : List Source} {s : Source} {S : Section} {F : Field S.Value}
    (h : Decides w (s :: order) S F c) (hs : s.IsSilent w [S.name, F.name]) :
    Decides w (order ++ [s]) S F c := by
  constructor
  case first =>
    intro before t after v horder hbefore ht
    have hne : t ≠ s := by
      rintro rfl
      exact ht.not_isSilent hs
    rcases List.append_eq_append_iff.mp horder with ⟨between, -, hend⟩ | ⟨between, hfront, hend⟩
    · cases between with
      | nil => exact absurd (List.cons.inj hend).1.symm hne
      | cons _ between => simp at hend
    · cases between with
      | nil => exact absurd (List.cons.inj hend).1 hne
      | cons _ between =>
        obtain ⟨rfl, -⟩ := List.cons.inj hend
        refine h.first (s :: before) t between v (congrArg (s :: ·) hfront) ?_ ht
        rw [List.forall_mem_cons]
        exact ⟨hs, hbefore⟩
  case default =>
    intro hsilent
    apply h.default
    intro t ht
    exact hsilent t (by simpa [or_comm] using ht)

theorem load_decided (h : load w explicit = .ok c) :
    sources w explicit = (listedSources w explicit).map (fun s => (s.label, s.isFound w)) ∧
      ∀ S ∈ schema, ∀ F ∈ S.fields,
        Decides w (.environment :: fileSources w explicit) S F c ∧
          (Source.environment.IsSilent w [S.name, F.name] →
            Decides w (listedSources w explicit) S F c) := by
  refine ⟨sources_eq w explicit, ?_⟩
  intro S hS F hF
  have hdecides := decides_of_merged (ofSetting_merged h) hS hF
  exact ⟨hdecides, hdecides.rotate⟩

def contested : Surroundings where
  files := FileTree.addFile {} ["work", "kernel-bridge.toml"] "[server]\nport = 1\n".toUTF8.toList
  here := ["work"]
  environment := [("KERNEL_BRIDGE_SERVER__PORT", "2")]

def contestedConfig : Config where
  server := { port := 2 }

theorem load_decided_contested :
    load contested none = .ok contestedConfig ∧
      sources contested none
        = (listedSources contested none).map (fun s => (s.label, s.isFound contested)) ∧
      ∀ S ∈ schema, ∀ F ∈ S.fields,
        Decides contested (.environment :: fileSources contested none) S F contestedConfig ∧
          (Source.environment.IsSilent contested [S.name, F.name] →
            Decides contested (listedSources contested none) S F contestedConfig) := by
  have hload : load contested none = .ok contestedConfig := by decide +kernel
  exact ⟨hload, load_decided hload⟩

theorem listed_below_environment :
    load contested none = .ok contestedConfig ∧
      sources contested none
        = [("Project: kernel-bridge.toml", true), ("Env:     KERNEL_BRIDGE_*", true)] ∧
      ¬∀ S ∈ schema, ∀ F ∈ S.fields,
        Decides contested (listedSources contested none) S F contestedConfig := by
  refine ⟨by decide +kernel, by decide +kernel, ?_⟩
  intro hdecides
  rw [forall_schema] at hdecides
  have hport := hdecides.1 _ (List.mem_cons_of_mem _ List.mem_cons_self)
  have hlisted : listedSources contested none =
      [.project (some "kernel-bridge.toml"), .environment] := by
    decide +kernel
  have hone : (((Source.project (some "kernel-bridge.toml")).layer? contested).bind
      (at? ["server", "port"])).map SettingReader.nat16 = some (.ok 1) := by
    decide +kernel
  obtain ⟨v, hv, hread⟩ := Option.map_eq_some_iff.mp hone
  obtain ⟨layer, hlayer, hat⟩ := Option.bind_eq_some_iff.mp hv
  have htable : ∀ ms, v ≠ .dict ms := by
    rintro ms rfl
    cases hread
  have heffective :=
    hport.first [] _ _ v hlisted (List.forall_mem_nil _) ⟨layer, hlayer, hat, htable⟩
  have hsame : Except.ok 1 = Except.ok 2 := hread.symm.trans heffective
  cases hsame

end Config

end PromptRelay
