import PromptRelay.Proofs.Config.Ranges
import PromptRelay.Proofs.Toml.Documents

namespace PromptRelay

namespace Setting

variable {members : List (String × Toml)} {ms : List (String × Setting)}

theorem lookup_ofMembers_or (hmembers : (members.map Prod.fst).Nodup) (hms : IsAscending ms)
    (n : String) :
    (ofMembers members ms).lookup n = ((members.lookup n).map ofToml).or (ms.lookup n) := by
  induction members generalizing ms with
  | nil => rfl
  | cons m members ih =>
    obtain ⟨name, v⟩ := m
    rw [List.map_cons, List.nodup_cons] at hmembers
    rw [ofMembers, ih hmembers.2 hms.put, lookup_put hms, lookup_cons_if]
    by_cases hn : n = name
    · rw [if_pos hn, if_pos hn, hn, lookup_eq_none_of_not_mem hmembers.1]
      rfl
    · rw [if_neg hn, if_neg hn]

theorem lookup_ofMembers (hmembers : (members.map Prod.fst).Nodup) (n : String) :
    (ofMembers members []).lookup n = (members.lookup n).map ofToml := by
  rw [lookup_ofMembers_or hmembers .nil, List.lookup_nil, Option.or_none]

theorem mem_ofMembers {m : String × Setting} (h : m ∈ ofMembers members ms) :
    m ∈ ms ∨ ∃ v, (m.1, v) ∈ members ∧ m.2 = ofToml v := by
  induction members generalizing ms with
  | nil => exact .inl h
  | cons m' members ih =>
    obtain ⟨name, v⟩ := m'
    rw [ofMembers] at h
    rcases ih h with hput | ⟨v', hv', hm⟩
    · rcases mem_put hput with hmem | rfl | ⟨old, -, rfl⟩
      · exact .inl hmem
      · exact .inr ⟨v, List.mem_cons_self, rfl⟩
      · exact .inr ⟨v, List.mem_cons_self, rfl⟩
    · exact .inr ⟨v', List.mem_cons_of_mem _ hv', hm⟩

theorem nodup_ofMembers (members : List (String × Toml)) :
    ((ofMembers members []).map Prod.fst).Nodup :=
  (isSorted_dict.mp (isSorted_ofMembers members isSorted_nil)).1.nodup

theorem ofToml_ne_dict {v : Toml} (h : v.IsScalar) : ∀ ms, ofToml v ≠ dict ms := by
  cases v with
  | datetime s => exact h.elim
  | array items => exact h.elim
  | table members => exact h.elim
  | _ => simp [ofToml]

end Setting

namespace Config

open SettingReader

namespace Field

variable {α : Type} {fields : List (Field α)} {setters setters' : List (Setter α)} {x y : α}
  {members : List (String × Setting)} {type : String}

theorem exists_foldlM_assign {x : α}
    (h : ∀ m ∈ members, ∀ F ∈ fields, F.name = m.1 → ∃ value, F.read m.2 = .ok value) :
    ∃ y, members.foldlM (assign (fields.map setter)) x = .ok y := by
  induction members generalizing x with
  | nil => exact ⟨x, rfl⟩
  | cons m members ih =>
    rw [List.forall_mem_cons] at h
    obtain ⟨z, hz⟩ : ∃ z, assign (fields.map setter) x m = .ok z := by
      unfold assign
      cases hlookup : (fields.map setter).lookup m.1 with
      | none => exact ⟨x, rfl⟩
      | some f =>
        obtain ⟨G, hG, hname, rfl⟩ := lookup_setter hlookup
        obtain ⟨value, hvalue⟩ := h.1 G hG hname
        refine ⟨G.set x value, ?_⟩
        simp [setter, field, hvalue, Except.map, within]
    obtain ⟨y, hy⟩ := ih (x := z) h.2
    refine ⟨y, ?_⟩
    rw [List.foldlM_cons, hz]
    exact hy

theorem record_eq_of_takes (h : fields.Pairwise Independent)
    (hext : ∀ x y, (∀ F ∈ fields, F.get x = F.get y) → x = y)
    (hmembers : (members.map Prod.fst).Nodup) {default : α}
    (htakes : ∀ F ∈ fields, F.Takes (members.lookup F.name) default x) :
    record type (fields.map setter) default (.dict members) = .ok x := by
  have hreads : ∀ m ∈ members, ∀ F ∈ fields, F.name = m.1 → ∃ value, F.read m.2 = .ok value := by
    intro m hm F hF hname
    have hfound := htakes F hF
    rw [hname, lookup_of_mem hmembers hm] at hfound
    exact ⟨_, hfound⟩
  obtain ⟨z, hz⟩ := exists_foldlM_assign (x := default) hreads
  rw [← record_dict type] at hz
  rw [hz]
  refine congrArg Except.ok (hext z x fun F hF => ?_)
  have hfound := takes_of_record h hF hmembers hz
  have hexpected := htakes F hF
  cases hlookup : members.lookup F.name with
  | none =>
    rw [hlookup] at hfound hexpected
    exact hfound.trans hexpected.symm
  | some v =>
    rw [hlookup] at hfound hexpected
    exact Except.ok.inj (hfound.symm.trans hexpected)

def Agree (m : String × Setting) (f g : Setter α) : Prop :=
  f.1 = g.1 ∧ ∀ x, f.2 m.2 x = g.2 m.2 x

theorem assign_congr {m : String × Setting} (h : List.Forall₂ (Agree m) setters setters') (x : α) :
    assign setters x m = assign setters' x m := by
  unfold assign
  induction h with
  | nil => rfl
  | @cons f g setters setters' hfg _ ih =>
    obtain ⟨name, f⟩ := f
    obtain ⟨name', g⟩ := g
    obtain ⟨rfl, hfg⟩ : name = name' ∧ _ := hfg
    rw [List.lookup_cons, List.lookup_cons]
    by_cases hname : m.1 = name
    · simp only [hname, beq_self_eq_true]
      exact congrArg (within name) (hfg x)
    · rw [beq_false_of_ne hname]
      exact ih

theorem record_congr (h : ∀ m ∈ members, List.Forall₂ (Agree m) setters setters') (default : α) :
    record type setters default (.dict members) = record type setters' default (.dict members) := by
  rw [record_dict, record_dict]
  induction members generalizing default with
  | nil => rfl
  | cons m members ih =>
    rw [List.forall_mem_cons] at h
    rw [List.foldlM_cons, List.foldlM_cons, assign_congr h.1]
    exact congrArg _ (funext fun x => ih h.2 x)

end Field

theorem choice_congr {α : Type} {type : String} {all : List α} {name : α → String} {v : Setting}
    (hv : ∀ ms, v ≠ .dict ms) (a b : Variants) :
    choice a type all name v = choice b type all name v := by
  cases v with
  | dict ms => exact absurd rfl (hv ms)
  | _ => rfl

instance : Std.Symm fun S S' : Section => Field.Independent S.field S'.field where
  symm _ _ h := ⟨h.1.symm, h.2.2, h.2.1⟩

theorem Section.eq_of_fields {S : Section} (hS : S ∈ schema) (x y : S.Value)
    (h : ∀ F ∈ S.fields, F.get x = F.get y) : x = y := by
  have heq : S.set {} x = S.set {} y := by
    refine eq_of_settings fun S' hS' F hF => ?_
    by_cases hsame : S' = S
    · subst hsame
      rw [S'.get_set, S'.get_set, h F hF]
    · have hother := ((List.pairwise_map.mp independent_schema).forall hS' hS hsame).2.1
      have hx : S'.get (S.set {} x) = S'.get {} := hother {} x
      have hy : S'.get (S.set {} y) = S'.get {} := hother {} y
      rw [hx, hy]
  have hget := congrArg S.get heq
  rwa [S.get_set, S.get_set] at hget

theorem eq_of_sections {c c' : Config}
    (h : ∀ F ∈ schema.map Section.field, F.get c = F.get c') : c = c' :=
  eq_of_settings fun S hS F _ => congrArg F.get (h S.field (List.mem_map_of_mem hS))

def written? (c : Config) (name key : String) : Option Toml :=
  ((c.toSections.lookup name).bind fun entries => entries.lookup key).join

theorem nat_natural {type : String} {limit n : ℕ} (h : n < limit) :
    nat type limit (Setting.ofToml (natural n)) = .ok n := by
  have hint : 0 ≤ (n : ℤ) ∧ (n : ℤ) < limit := by omega
  exact if_pos hint

theorem single_decimal {x : Binary} (h : Binary.Format.single.Has x) :
    single (Setting.ofToml (decimal x)) = .ok x :=
  congrArg Except.ok (Binary.convert_double_single h)

section

variable {α β : Type} {name : String} {read : SettingReader β} {get : α → β} {set : α → β → α}
  {get_set : ∀ a x, get (set a x) = x} {flag : CommandLine → Option β} {found : Option Toml}
  {default x : α}

theorem takes_of_some {v : Toml} (hfound : found = some v)
    (hread : read (Setting.ofToml v) = .ok (get x)) :
    Field.Takes ⟨name, β, read, get, set, get_set, flag⟩ (found.map Setting.ofToml) default x := by
  rw [hfound]
  exact hread

theorem optional_ofToml {v : Toml} {y : β} (hread : read (Setting.ofToml v) = .ok y) :
    SettingReader.optional read (Setting.ofToml v) = .ok (some y) := by
  unfold SettingReader.optional
  split
  next heq => cases v <;> cases heq
  next => rw [hread]; rfl

theorem takes_of_map {toToml : β → Toml} {get : α → Option β} {set : α → Option β → α}
    {get_set : ∀ a x, get (set a x) = x} {flag : CommandLine → Option (Option β)}
    (hfound : found = (get x).map toToml) (hdefault : get default = none)
    (hread : ∀ y, get x = some y → read (Setting.ofToml (toToml y)) = .ok y) :
    Field.Takes ⟨name, Option β, SettingReader.optional read, get, set, get_set, flag⟩
      (found.map Setting.ofToml) default x := by
  rw [hfound]
  cases hget : get x with
  | none => exact hget.trans hdefault.symm
  | some y => exact (optional_ofToml (hread y hget)).trans (congrArg Except.ok hget.symm)

end

theorem takes_written {c : Config} (h : c.Fits) : ∀ S ∈ schema, ∀ F ∈ S.fields,
    F.Takes ((c.written? S.name F.name).map Setting.ofToml) (S.get {}) (S.get c) := by
  rw [forall_schema]
  refine ⟨?server, ?dispatch, ?backend, ?remote, ?onDevice, ?logging⟩
  case server =>
    have hport : nat16 (Setting.ofToml (natural c.server.port)) = .ok c.server.port :=
      nat_natural h.port
    simp only [Server.settings, List.forall_mem_cons]
    exact ⟨takes_of_some rfl rfl, takes_of_some rfl hport, takes_of_some rfl rfl,
      List.forall_mem_nil _⟩
  case dispatch =>
    have hmaxTokens : nat32 (Setting.ofToml (natural c.requests.sampling.maxTokens)) =
        .ok c.requests.sampling.maxTokens := nat_natural h.maxTokens
    have hreadBufferSize : size (Setting.ofToml (natural c.requests.readBufferSize)) =
        .ok c.requests.readBufferSize := nat_natural h.readBufferSize
    simp only [Requests.settings, List.forall_mem_cons]
    exact ⟨takes_of_some rfl rfl, takes_of_some rfl hmaxTokens,
      takes_of_map rfl rfl fun x hx => single_decimal (h.temperature x hx),
      takes_of_map rfl rfl fun x hx => single_decimal (h.topP x hx),
      takes_of_map rfl rfl fun x hx => single_decimal (h.repeatPenalty x hx),
      takes_of_map rfl rfl fun n hn => nat_natural (h.requestTimeout n hn),
      takes_of_some rfl hreadBufferSize, List.forall_mem_nil _⟩
  case backend =>
    have hkind (kind : BackendKind) : choice .first "BackendKind" [.onDevice, .remote]
        BackendKind.name (Setting.ofToml (.string kind.name)) = .ok kind := by
      cases kind <;> rfl
    simp only [backendSettings, List.forall_mem_cons]
    exact ⟨takes_of_some rfl (hkind c.backend), List.forall_mem_nil _⟩
  case remote =>
    have htimeout : nat64 (Setting.ofToml (natural c.remote.timeoutSeconds)) =
        .ok c.remote.timeoutSeconds := nat_natural h.remoteTimeout
    simp only [Remote.settings, List.forall_mem_cons]
    exact ⟨takes_of_some rfl rfl, takes_of_some rfl rfl, takes_of_some rfl rfl,
      takes_of_some rfl htimeout, List.forall_mem_nil _⟩
  case onDevice =>
    have hthreads : nat32 (Setting.ofToml (natural c.onDevice.threads)) = .ok c.onDevice.threads :=
      nat_natural h.threads
    have hprofile (profile : Profile) : choice .first "ContextProfile" Profile.all Profile.name
        (Setting.ofToml (.string profile.name)) = .ok profile := by
      cases profile <;> rfl
    simp only [OnDevice.settings, List.forall_mem_cons]
    exact ⟨takes_of_some rfl rfl, takes_of_some rfl (hprofile c.onDevice.profile),
      takes_of_map rfl rfl fun n hn => nat_natural (h.contextSize n hn),
      takes_of_some rfl hthreads, List.forall_mem_nil _⟩
  case logging =>
    simp only [loggingSettings, List.forall_mem_cons]
    exact ⟨takes_of_map rfl rfl fun _ _ => rfl, List.forall_mem_nil _⟩

def names : List (String × List String) :=
  ({} : Config).toSections.map fun S => (S.1, S.2.map Prod.fst)

theorem mem_names {c : Config} {S : String × List (String × Option Toml)} (hS : S ∈ c.toSections) :
    (S.1, S.2.map Prod.fst) ∈ names := by
  have hnames : names = c.toSections.map fun S => (S.1, S.2.map Prod.fst) := rfl
  rw [hnames]
  exact List.mem_map_of_mem hS

theorem nodup_names : (names.map Prod.fst).Nodup ∧ ∀ N ∈ names, N.2.Nodup := by
  decide

section

variable {entries : List (String × Option Toml)}

def setValues (entries : List (String × Option Toml)) : List (String × Toml) :=
  entries.filterMap fun entry => entry.2.map fun v => (entry.1, v)

theorem sublist_setValues (entries : List (String × Option Toml)) :
    ((setValues entries).map Prod.fst).Sublist (entries.map Prod.fst) := by
  induction entries with
  | nil => exact .slnil
  | cons entry entries ih =>
    obtain ⟨name, o⟩ := entry
    cases o with
    | none => exact ih.cons name
    | some v => exact ih.cons_cons name

theorem lookup_setValues (h : (entries.map Prod.fst).Nodup) (n : String) :
    (setValues entries).lookup n = (entries.lookup n).join := by
  induction entries with
  | nil => rfl
  | cons entry entries ih =>
    obtain ⟨name, o⟩ := entry
    rw [List.map_cons, List.nodup_cons] at h
    have hrest := ih h.2
    rw [lookup_cons_if]
    cases o with
    | none =>
      have hnone : setValues ((name, none) :: entries) = setValues entries := rfl
      rw [hnone, hrest]
      split_ifs with hn
      · rw [hn, lookup_eq_none_of_not_mem h.1]
        rfl
      · rfl
    | some v =>
      have hsome : setValues ((name, some v) :: entries) = (name, v) :: setValues entries := rfl
      rw [hsome, lookup_cons_if, hrest]
      split_ifs <;> rfl

theorem lookup_map {α β : Type} (f : α → β) (xs : List (String × α)) (n : String) :
    (xs.map fun x => (x.1, f x.2)).lookup n = (xs.lookup n).map f := by
  induction xs with
  | nil => rfl
  | cons x xs ih =>
    rw [List.map_cons, lookup_cons_if, ih, lookup_cons_if]
    split_ifs <;> rfl

end

def tables (c : Config) : List Toml.Section :=
  c.toSections.map fun S => (S.1, setValues S.2)

theorem text_eq (c : Config) : c.text = Toml.documentText c.tables :=
  rfl

variable {c : Config}

theorem forall_mem_tables {p : Toml → Prop} : (∀ S ∈ c.tables, ∀ entry ∈ S.2, p entry.2) ↔
    ∀ S ∈ c.toSections, ∀ entry ∈ S.2, ∀ v, entry.2 = some v → p v := by
  simp only [tables, setValues, List.forall_mem_map, List.mem_filterMap]
  refine forall₂_congr fun S _ => ⟨fun h entry hentry v hv => ?_, ?_⟩
  · exact h (entry.1, v) ⟨entry, hentry, by rw [hv]; rfl⟩
  · rintro h entry ⟨entry', hentry', hsome⟩
    obtain ⟨v, hv, rfl⟩ := Option.map_eq_some_iff.mp hsome
    exact h entry' hentry' v hv

theorem isScalar_of_mem_tables (c : Config) : ∀ S ∈ c.tables, ∀ entry ∈ S.2, entry.2.IsScalar := by
  have hnatural (n : ℕ) : (natural n).IsScalar := by
    have hlow : -(Nat.pow 2 63 : ℤ) ≤ 0 := by decide
    exact hlow.trans (Int.natCast_nonneg n)
  have hdecimal (x : Binary) : (decimal x).IsScalar :=
    Binary.has_convert (by decide) (by decide) x
  have hstring (s : String) : (Toml.string s).IsScalar := trivial
  have hbool (b : Bool) : (Toml.bool b).IsScalar := trivial
  simp only [forall_mem_tables, toSections, List.forall_mem_cons]
  simp [hnatural, hdecimal, hstring, hbool]

theorem ofSetting_congr {members : List (String × Setting)}
    (h : ∀ m ∈ members, ∃ inner, m.2 = .dict inner ∧ ∀ m' ∈ inner, ∀ ms, m'.2 ≠ .dict ms)
    (a b : Variants) : ofSetting a (.dict members) = ofSetting b (.dict members) := by
  refine Field.record_congr (fun m hm => ?_) ({} : Config)
  obtain ⟨inner, hinner, hplain⟩ := h m hm
  have hbackend : record "FileBackendConfig" (backendFields a) .remote m.2 =
      record "FileBackendConfig" (backendFields b) .remote m.2 := by
    rw [hinner]
    refine Field.record_congr (fun m' hm' => ?_) _
    simp [backendFields, Field.Agree, field, choice_congr (hplain m' hm') a b]
  have honDevice : record "FileLocalConfig" (onDeviceFields a) {} m.2 =
      record "FileLocalConfig" (onDeviceFields b) {} m.2 := by
    rw [hinner]
    refine Field.record_congr (fun m' hm' => ?_) _
    simp [onDeviceFields, Field.Agree, field, choice_congr (hplain m' hm') a b]
  simp [sections, Field.Agree, field, hbackend, honDevice]

theorem ofSetting_tables (h : c.Fits) : ofSetting .alone
    (Setting.ofToml (.table (c.tables.map fun S => (S.1, .table S.2)))) = .ok c := by
  rw [Setting.ofToml]
  have hflat : ∀ m ∈ Setting.ofMembers (c.tables.map fun S => (S.1, .table S.2)) [],
      ∃ inner, m.2 = .dict inner ∧ ∀ m' ∈ inner, ∀ ms, m'.2 ≠ .dict ms := by
    intro m hm
    obtain ⟨v, hv, hmv⟩ := (Setting.mem_ofMembers hm).resolve_left List.not_mem_nil
    obtain ⟨S, hS, heq⟩ := List.mem_map.mp hv
    obtain ⟨-, rfl⟩ := Prod.mk.inj heq
    refine ⟨_, hmv.trans (Setting.ofToml.eq_def _), fun m' hm' => ?_⟩
    obtain ⟨v', hv', hm'v⟩ := (Setting.mem_ofMembers hm').resolve_left List.not_mem_nil
    rw [hm'v]
    exact Setting.ofToml_ne_dict (isScalar_of_mem_tables c S hS _ hv')
  rw [ofSetting_congr hflat .alone .first, ofSetting, sections_eq]
  refine Field.record_eq_of_takes independent_schema (fun _ _ => eq_of_sections)
    (Setting.nodup_ofMembers _) fun F hF => ?_
  obtain ⟨S, hS, rfl⟩ := List.mem_map.mp hF
  have hnames : ((c.tables.map fun S => (S.1, Toml.table S.2)).map Prod.fst).Nodup := by
    have hsame : (c.tables.map fun S => (S.1, Toml.table S.2)).map Prod.fst =
        names.map Prod.fst := rfl
    rw [hsame]
    exact nodup_names.1
  obtain ⟨entries, hentries⟩ : ∃ entries, c.toSections.lookup S.name = some entries := by
    simp only [schema, List.mem_cons, List.not_mem_nil, or_false] at hS
    rcases hS with rfl | rfl | rfl | rfl | rfl | rfl <;> exact ⟨_, rfl⟩
  have hdistinct : (entries.map Prod.fst).Nodup :=
    nodup_names.2 _ (mem_names (mem_of_lookup hentries))
  have htable : (c.tables.map fun S => (S.1, Toml.table S.2)).lookup S.name =
      some (.table (setValues entries)) := by
    rw [lookup_map, tables, lookup_map, hentries]
    rfl
  have hread : record S.type (S.fields.map Field.setter) (S.get {})
      (.dict (Setting.ofMembers (setValues entries) [])) = .ok (S.get c) := by
    refine Field.record_eq_of_takes S.independent (S.eq_of_fields hS)
      (Setting.nodup_ofMembers _) fun F hF => ?_
    have htakes := takes_written h S hS F hF
    rw [written?, hentries] at htakes
    rw [Setting.lookup_ofMembers ((sublist_setValues entries).nodup hdistinct),
      lookup_setValues hdistinct]
    exact htakes
  have hname : S.field.name = S.name := rfl
  rw [hname, Setting.lookup_ofMembers hnames, htable]
  exact hread

end Config

end PromptRelay
