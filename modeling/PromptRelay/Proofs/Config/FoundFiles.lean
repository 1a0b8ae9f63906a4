import PromptRelay.Proofs.Config.SourceOrder

namespace PromptRelay

namespace FileTree

variable {t : FileTree} {here : List String} {path : String}

theorem place_of_isAbsolute (h : Path.isAbsolute path = true) (here : List String) :
    t.place here path = t.place [] path := by
  unfold place
  rw [h]
  rfl

theorem readFile?_of_isAbsolute (h : Path.isAbsolute path = true) (here : List String) :
    t.readFile? here path = t.readFile? [] path := by
  unfold readFile? find?
  rw [place_of_isAbsolute h here]

theorem readFile?_eq_none_iff :
    t.readFile? here path = none ↔
      t.find? here path = none ∨ t.find? here path = some .directory := by
  unfold readFile?
  cases hfind : t.find? here path with
  | none => simp
  | some node => cases node <;> simp

end FileTree

namespace Config

variable {w : Surroundings} {explicit : Option String} {path : String} {s : Source}

def fileAbove? (w : Surroundings) (path : String) : Option (List UInt8) :=
  if Path.isAbsolute path then none
  else (List.range w.here.length).findSome? fun up =>
    w.files.readFile? (w.here.take (w.here.length - (up + 1))) path

theorem layerFile?_eq (w : Surroundings) (path : String) :
    layerFile? w path = (w.files.readFile? w.here path).or (fileAbove? w path) := by
  unfold layerFile? fileAbove?
  split_ifs with habsolute
  · rw [Option.or_none, FileTree.readFile?_of_isAbsolute habsolute w.here]
  · rw [List.range_succ_eq_map, List.findSome?_cons, Nat.sub_zero, List.take_length,
      List.findSome?_map]
    cases w.files.readFile? w.here path <;> rfl

namespace Source

def bytes? (w : Surroundings) (s : Source) : Option (List UInt8) :=
  (s.path? w).bind (layerFile? w)

/-- A directory stands where the file should be, and no directory around has such a file. -/
def IsBlocked (w : Surroundings) (s : Source) : Prop :=
  ∃ path, s.path? w = some path ∧ w.files.find? w.here path = some .directory
    ∧ fileAbove? w path = none

/-- The file that the command line names is not in the working directory, but in one around it. -/
def IsElsewhere (w : Surroundings) (s : Source) : Prop :=
  ∃ path, s = .explicit path ∧ w.files.find? w.here path = none ∧ (fileAbove? w path).isSome = true

end Source

theorem pathExists_of_global {p : String} (h : (Source.global p).path? w = some path) :
    p = path ∧ w.pathExists p = true := by
  rw [Source.path?] at h
  obtain ⟨hp, hexists⟩ := Option.filter_eq_some_iff.mp h
  obtain rfl := Option.some.inj hp
  exact ⟨rfl, hexists⟩

theorem isFound_of_path (hs : s ∈ fileSources w explicit) (hpath : s.path? w = some path) :
    s.isFound w = (w.files.find? w.here path).isSome := by
  cases s with
  | explicit p =>
    obtain rfl := Option.some.inj hpath
    rfl
  | project p =>
    have hp : p = projectPath? w := by simpa [fileSources] using hs
    have hproject : projectPath? w = some path := hp.symm.trans hpath
    have hexists : w.pathExists path = true := List.find?_some hproject
    rw [Source.isFound, hp, hproject]
    exact hexists.symm
  | global p =>
    obtain ⟨rfl, -⟩ := pathExists_of_global hpath
    rfl
  | environment => cases hpath

theorem isFound_of_no_path (hs : s ∈ fileSources w explicit) (hpath : s.path? w = none) :
    s.isFound w = false := by
  cases s with
  | explicit p => cases hpath
  | project p =>
    obtain rfl : p = none := hpath
    rfl
  | global p =>
    by_contra hfound
    rw [Bool.not_eq_false] at hfound
    have hexists : w.pathExists p = true := hfound
    rw [Source.path?, Option.filter_some_pos hexists] at hpath
    cases hpath
  | environment => simp [fileSources] at hs

theorem eq_explicit_of_not_isFound (hs : s ∈ fileSources w explicit) (hpath : s.path? w = some path)
    (hfound : s.isFound w = false) : s = .explicit path := by
  cases s with
  | explicit p =>
    obtain rfl := Option.some.inj hpath
    rfl
  | project p =>
    obtain rfl : p = some path := hpath
    cases hfound
  | global p =>
    obtain ⟨-, hexists⟩ := pathExists_of_global hpath
    cases hexists.symm.trans hfound
  | environment => cases hpath

theorem bytes?_of_path (hpath : s.path? w = some path) :
    s.bytes? w = (w.files.readFile? w.here path).or (fileAbove? w path) := by
  rw [Source.bytes?, hpath, Option.bind_some, layerFile?_eq]

theorem layer?_of_bytes? (hs : s ∈ fileSources w explicit) :
    (∀ bytes, s.bytes? w = some bytes → s.layer? w = fileSettings? bytes) ∧
      (s.bytes? w = none → ∀ layer, s.layer? w = some layer → layer = .dict []) := by
  rw [layer?_of_mem_fileSources hs, Source.bytes?]
  cases hpath : s.path? w with
  | none => exact ⟨nofun, fun _ => nofun⟩
  | some path =>
    rw [Option.bind_some, Option.bind_some, layerSettings?]
    constructor
    · intro bytes hbytes
      rw [hbytes]
    · intro hbytes layer hlayer
      rw [hbytes] at hlayer
      exact (Option.some.inj hlayer).symm

theorem found_unused_iff (hs : s ∈ fileSources w explicit) :
    s.isFound w = true ∧ s.bytes? w = none ↔ s.IsBlocked w := by
  constructor
  · rintro ⟨hfound, hbytes⟩
    cases hpath : s.path? w with
    | none =>
      rw [isFound_of_no_path hs hpath] at hfound
      cases hfound
    | some path =>
      rw [isFound_of_path hs hpath] at hfound
      rw [bytes?_of_path hpath, Option.or_eq_none_iff, FileTree.readFile?_eq_none_iff] at hbytes
      obtain ⟨hnone | hdirectory, habove⟩ := hbytes
      · rw [hnone] at hfound
        cases hfound
      · exact ⟨path, hpath, hdirectory, habove⟩
  · rintro ⟨path, hpath, hdirectory, habove⟩
    rw [isFound_of_path hs hpath, bytes?_of_path hpath, hdirectory, habove, Option.or_none,
      FileTree.readFile?_eq_none_iff]
    exact ⟨rfl, .inr hdirectory⟩

theorem used_unfound_iff (hs : s ∈ fileSources w explicit) :
    s.isFound w = false ∧ (s.bytes? w).isSome = true ↔ s.IsElsewhere w := by
  constructor
  · rintro ⟨hfound, hbytes⟩
    cases hpath : s.path? w with
    | none =>
      rw [Source.bytes?, hpath] at hbytes
      cases hbytes
    | some path =>
      have hnone := hfound
      rw [isFound_of_path hs hpath, Option.isSome_eq_false_iff, Option.isNone_iff_eq_none] at hnone
      rw [bytes?_of_path hpath, FileTree.readFile?_eq_none_iff.mpr (.inl hnone),
        Option.none_or] at hbytes
      exact ⟨path, eq_explicit_of_not_isFound hs hpath hfound, hnone, hbytes⟩
  · rintro ⟨path, rfl, hnone, habove⟩
    have hpath : (Source.explicit path).path? w = some path := rfl
    rw [isFound_of_path hs hpath, bytes?_of_path hpath, hnone,
      FileTree.readFile?_eq_none_iff.mpr (.inl hnone), Option.none_or]
    exact ⟨rfl, habove⟩

theorem found_iff_loaded (hs : s ∈ fileSources w explicit) :
    (s.label, s.isFound w) ∈ sources w explicit ∧
      (∀ bytes, s.bytes? w = some bytes → s.layer? w = fileSettings? bytes) ∧
      (s.bytes? w = none → ∀ layer, s.layer? w = some layer → layer = .dict []) ∧
      (∀ path bytes, s.path? w = some path → w.files.find? w.here path = some (.file bytes) →
        s.isFound w = true ∧ s.bytes? w = some bytes) ∧
      (s.isFound w = true ∧ s.bytes? w = none ↔ s.IsBlocked w) ∧
      (s.isFound w = false ∧ (s.bytes? w).isSome = true ↔ s.IsElsewhere w) ∧
      ((s.isFound w = true ↔ (s.bytes? w).isSome = true) ↔ ¬s.IsBlocked w ∧ ¬s.IsElsewhere w) := by
  have hblocked := found_unused_iff hs
  have helsewhere := used_unfound_iff hs
  obtain ⟨hlayer, hnothing⟩ := layer?_of_bytes? hs
  refine ⟨?listed, hlayer, hnothing, ?loaded, hblocked, helsewhere, ?agrees⟩
  case listed =>
    rw [sources_eq]
    exact List.mem_map_of_mem (List.mem_append_left _ hs)
  case loaded =>
    intro path bytes hpath hfile
    have hread : w.files.readFile? w.here path = some bytes := by
      rw [FileTree.readFile?, hfile]
    rw [isFound_of_path hs hpath, bytes?_of_path hpath, hfile, hread]
    exact ⟨rfl, rfl⟩
  case agrees =>
    rw [← hblocked, ← helsewhere]
    cases s.isFound w <;> cases s.bytes? w <;> simp

def fileOutside : Surroundings where
  files := (FileTree.addFile {} ["x.toml"] "[server]\nport = 1\n".toUTF8.toList).set ["work"]
    .directory
  here := ["work"]
  environment := []

def directoryInside : Surroundings where
  files := (FileTree.set {} ["work"] .directory).set ["work", "x.toml"] .directory
  here := ["work"]
  environment := []

theorem found_iff_loaded_fileOutside :
    let s := Source.explicit "x.toml"
    let w := fileOutside
    s ∈ fileSources w (some "x.toml") ∧
      (s.label, s.isFound w) ∈ sources w (some "x.toml") ∧
      (∀ bytes, s.bytes? w = some bytes → s.layer? w = fileSettings? bytes) ∧
      (s.bytes? w = none → ∀ layer, s.layer? w = some layer → layer = .dict []) ∧
      (∀ path bytes, s.path? w = some path → w.files.find? w.here path = some (.file bytes) →
        s.isFound w = true ∧ s.bytes? w = some bytes) ∧
      (s.isFound w = true ∧ s.bytes? w = none ↔ s.IsBlocked w) ∧
      (s.isFound w = false ∧ (s.bytes? w).isSome = true ↔ s.IsElsewhere w) ∧
      ((s.isFound w = true ↔ (s.bytes? w).isSome = true) ↔ ¬s.IsBlocked w ∧ ¬s.IsElsewhere w) := by
  have hs : Source.explicit "x.toml" ∈ fileSources fileOutside (some "x.toml") :=
    List.mem_cons_self
  exact ⟨hs, found_iff_loaded hs⟩

theorem listed_otherwise_than_loaded :
    (sources fileOutside (some "x.toml")
        = [("Explicit: x.toml", false),
          ("Project: ./kernel-bridge.toml or ./.kernel-bridge.toml", false),
          ("Env:     KERNEL_BRIDGE_*", true)] ∧
      load fileOutside (some "x.toml") = .ok { server := { port := 1 } } ∧
      load fileOutside none = .ok {} ∧
      ¬∀ s ∈ fileSources fileOutside (some "x.toml"),
        (s.isFound fileOutside = true ↔ (s.bytes? fileOutside).isSome = true)) ∧
    (sources directoryInside (some "x.toml")
        = [("Explicit: x.toml", true),
          ("Project: ./kernel-bridge.toml or ./.kernel-bridge.toml", false),
          ("Env:     KERNEL_BRIDGE_*", true)] ∧
      ¬∀ s ∈ fileSources directoryInside (some "x.toml"),
        (s.isFound directoryInside = true ↔ (s.bytes? directoryInside).isSome = true)) := by
  decide +kernel

end Config

end PromptRelay
