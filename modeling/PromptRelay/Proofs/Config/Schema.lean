import Mathlib.Data.List.Pairwise
import PromptRelay.Program
import PromptRelay.Proofs.Config.Merging

/-!
Fields of records as pairs of a reader and a place in the record, and the sections and settings of a
configuration as such fields. What a record gets from a table is, field by field, what the table
says under the name of the field.
-/

namespace PromptRelay.Config

open SettingReader

structure Field (α : Type) where
  name : String
  Value : Type
  read : SettingReader Value
  get : α → Value
  set : α → Value → α
  get_set : ∀ a x, get (set a x) = x
  flag : CommandLine → Option Value := fun _ => none

namespace Field

variable {α : Type}

def setter (F : Field α) : Setter α :=
  field F.name F.read F.set

def Independent (F G : Field α) : Prop :=
  F.name ≠ G.name ∧ (∀ a x, F.get (G.set a x) = F.get a) ∧ ∀ a x, G.get (F.set a x) = G.get a

def Takes (F : Field α) (found : Option Setting) (before after : α) : Prop :=
  match found with
  | some v => F.read v = .ok (F.get after)
  | none => F.get after = F.get before

variable {fields : List (Field α)} {F : Field α}

instance : Std.Symm (@Independent α) where
  symm _ _ h := ⟨h.1.symm, h.2.2, h.2.1⟩

theorem lookup_setter {n : String} {f : Setting → α → Except SettingError α}
    (h : (fields.map setter).lookup n = some f) : ∃ G ∈ fields, G.name = n ∧ G.setter.2 = f := by
  obtain ⟨G, hG, hsetter⟩ := List.mem_map.mp (mem_of_lookup h)
  exact ⟨G, hG, congrArg Prod.fst hsetter, congrArg Prod.snd hsetter⟩

theorem get_of_setter {v : Setting} {x y : α} (h : F.setter.2 v x = .ok y) :
    ∃ value, F.read v = .ok value ∧ y = F.set x value := by
  simp only [setter, field] at h
  cases hread : F.read v with
  | error e =>
    rw [hread] at h
    cases h
  | ok value =>
    rw [hread] at h
    exact ⟨value, rfl, (Except.ok.inj h).symm⟩

theorem eq_ok_of_within {β : Type} {name : String} {result : Except SettingError β} {y : β}
    (h : within name result = .ok y) : result = .ok y := by
  cases result with
  | error e => cases h
  | ok x => exact h

def assign (setters : List (Setter α)) (x : α) (m : String × Setting) : Except SettingError α :=
  match setters.lookup m.1 with
  | some f => within m.1 (f m.2 x)
  | none => .ok x

theorem record_dict (type : String) (setters : List (Setter α)) (default : α)
    (members : List (String × Setting)) :
    record type setters default (.dict members) = members.foldlM (assign setters) default :=
  rfl

theorem takes_assign (h : fields.Pairwise Independent) (hF : F ∈ fields) {n : String} {v : Setting}
    {x y : α} (hstep : assign (fields.map setter) x (n, v) = .ok y) :
    F.Takes (if F.name = n then some v else none) x y := by
  unfold assign at hstep
  cases hlookup : (fields.map setter).lookup n with
  | none =>
    rw [hlookup] at hstep
    have hne : F.name ≠ n := by
      rw [List.lookup_eq_none_iff] at hlookup
      have hbeq := hlookup F.setter (List.mem_map_of_mem hF)
      rintro rfl
      simp [setter, field] at hbeq
    rw [if_neg hne]
    exact congrArg F.get (Except.ok.inj hstep).symm
  | some f =>
    rw [hlookup] at hstep
    obtain ⟨G, hG, rfl, rfl⟩ := lookup_setter hlookup
    obtain ⟨value, hread, rfl⟩ := get_of_setter (eq_ok_of_within hstep)
    by_cases hname : F.name = G.name
    · have hsame : F = G := by
        by_contra hne
        exact (h.forall hF hG hne).1 hname
      subst hsame
      rw [if_pos rfl]
      exact hread.trans (congrArg Except.ok (F.get_set x value).symm)
    · have hne : F ≠ G := fun hsame => hname (congrArg Field.name hsame)
      rw [if_neg hname]
      exact (h.forall hF hG hne).2.1 x value

theorem takes_of_record (h : fields.Pairwise Independent) (hF : F ∈ fields) {type : String}
    {default x : α} {members : List (String × Setting)} (hmembers : (members.map Prod.fst).Nodup)
    (hrecord : record type (fields.map setter) default (.dict members) = .ok x) :
    F.Takes (members.lookup F.name) default x := by
  rw [record_dict] at hrecord
  induction members generalizing default with
  | nil => exact congrArg F.get (Except.ok.inj hrecord).symm
  | cons m members ih =>
    obtain ⟨n, v⟩ := m
    rw [List.map_cons, List.nodup_cons] at hmembers
    rw [List.foldlM_cons] at hrecord
    cases hstep : assign (fields.map setter) default (n, v) with
    | error e =>
      rw [hstep] at hrecord
      cases hrecord
    | ok y =>
      rw [hstep] at hrecord
      have hmember := takes_assign h hF hstep
      have htakes := ih hmembers.2 hrecord
      rw [lookup_cons_if]
      by_cases hname : F.name = n
      · rw [hname, lookup_eq_none_of_not_mem hmembers.1] at htakes
        rw [if_pos hname] at hmember ⊢
        exact hmember.trans (congrArg Except.ok htakes.symm)
      · rw [if_neg hname] at hmember ⊢
        cases hfound : members.lookup F.name with
        | some v' =>
          rw [hfound] at htakes
          exact htakes
        | none =>
          rw [hfound] at htakes
          exact htakes.trans hmember

end Field

def Server.settings : List (Field Server) :=
  [⟨"host", _, string, Server.host, fun c v => { c with host := v }, fun _ _ => rfl,
      CommandLine.host⟩,
    ⟨"port", _, nat16, Server.port, fun c v => { c with port := v }, fun _ _ => rfl,
      CommandLine.port⟩,
    ⟨"concurrent", _, bool, Server.concurrent, fun c v => { c with concurrent := v },
      fun _ _ => rfl, fun line => if line.concurrent then some true else none⟩]

def Requests.settings : List (Field Requests) :=
  [⟨"system_prompt", _, string, Requests.systemPrompt, fun c v => { c with systemPrompt := v },
      fun _ _ => rfl, fun _ => none⟩,
    ⟨"max_tokens", _, nat32, fun c => c.sampling.maxTokens,
      fun c v => { c with sampling.maxTokens := v }, fun _ _ => rfl, fun _ => none⟩,
    ⟨"temperature", _, optional single, fun c => c.sampling.temperature,
      fun c v => { c with sampling.temperature := v }, fun _ _ => rfl, fun _ => none⟩,
    ⟨"top_p", _, optional single, fun c => c.sampling.topP,
      fun c v => { c with sampling.topP := v }, fun _ _ => rfl, fun _ => none⟩,
    ⟨"repeat_penalty", _, optional single, fun c => c.sampling.repeatPenalty,
      fun c v => { c with sampling.repeatPenalty := v }, fun _ _ => rfl, fun _ => none⟩,
    ⟨"timeout_secs", _, optional nat64, Requests.timeoutSeconds,
      fun c v => { c with timeoutSeconds := v }, fun _ _ => rfl, fun _ => none⟩,
    ⟨"read_buffer_size", _, size, Requests.readBufferSize,
      fun c v => { c with readBufferSize := v }, fun _ _ => rfl, fun _ => none⟩]

def backendSettings : List (Field BackendKind) :=
  [⟨"kind", _, choice .first "BackendKind" [.onDevice, .remote] BackendKind.name, id,
    fun _ v => v, fun _ _ => rfl, CommandLine.backend⟩]

def Remote.settings : List (Field Remote) :=
  [⟨"base_url", _, string, Remote.baseUrl, fun c v => { c with baseUrl := v }, fun _ _ => rfl,
      fun _ => none⟩,
    ⟨"model", _, string, Remote.model, fun c v => { c with model := v }, fun _ _ => rfl,
      fun _ => none⟩,
    ⟨"api_key_env", _, string, Remote.keyVariable, fun c v => { c with keyVariable := v },
      fun _ _ => rfl, fun _ => none⟩,
    ⟨"timeout_secs", _, nat64, Remote.timeoutSeconds, fun c v => { c with timeoutSeconds := v },
      fun _ _ => rfl, fun _ => none⟩]

def OnDevice.settings : List (Field OnDevice) :=
  [⟨"model_path", _, string, OnDevice.modelPath, fun c v => { c with modelPath := v },
      fun _ _ => rfl, fun _ => none⟩,
    ⟨"profile", _, choice .first "ContextProfile" Profile.all Profile.name, OnDevice.profile,
      fun c v => { c with profile := v }, fun _ _ => rfl, fun _ => none⟩,
    ⟨"context_size", _, optional nat32, OnDevice.contextSize,
      fun c v => { c with contextSize := v }, fun _ _ => rfl, fun _ => none⟩,
    ⟨"threads", _, nat32, OnDevice.threads, fun c v => { c with threads := v }, fun _ _ => rfl,
      fun _ => none⟩]

def loggingSettings : List (Field (Option String)) :=
  [⟨"transcript", _, optional string, id, fun _ v => v, fun _ _ => rfl,
    fun line => line.transcript.map some⟩]

structure Section where
  name : String
  type : String
  Value : Type
  fields : List (Field Value)
  independent : fields.Pairwise Field.Independent
  get : Config → Value
  set : Config → Value → Config
  get_set : ∀ c x, get (set c x) = x

namespace Section

def field (S : Section) : Field Config where
  name := S.name
  Value := S.Value
  read := record S.type (S.fields.map Field.setter) (S.get {})
  get := S.get
  set := S.set
  get_set := S.get_set

def server : Section where
  name := "server"
  type := "FileServerConfig"
  Value := Server
  fields := Server.settings
  independent := by simp [Server.settings, Field.Independent]
  get := Config.server
  set c v := { c with server := v }
  get_set _ _ := rfl

def dispatch : Section where
  name := "dispatch"
  type := "FileDispatchConfig"
  Value := Requests
  fields := Requests.settings
  independent := by simp [Requests.settings, Field.Independent]
  get := Config.requests
  set c v := { c with requests := v }
  get_set _ _ := rfl

def backend : Section where
  name := "backend"
  type := "FileBackendConfig"
  Value := BackendKind
  fields := backendSettings
  independent := List.pairwise_singleton _ _
  get := Config.backend
  set c v := { c with backend := v }
  get_set _ _ := rfl

def remote : Section where
  name := "remote"
  type := "FileRemoteConfig"
  Value := Remote
  fields := Remote.settings
  independent := by simp [Remote.settings, Field.Independent]
  get := Config.remote
  set c v := { c with remote := v }
  get_set _ _ := rfl

def onDevice : Section where
  name := "local"
  type := "FileLocalConfig"
  Value := OnDevice
  fields := OnDevice.settings
  independent := by simp [OnDevice.settings, Field.Independent]
  get := Config.onDevice
  set c v := { c with onDevice := v }
  get_set _ _ := rfl

def logging : Section where
  name := "logging"
  type := "FileLoggingConfig"
  Value := Option String
  fields := loggingSettings
  independent := List.pairwise_singleton _ _
  get := Config.transcript
  set c v := { c with transcript := v }
  get_set _ _ := rfl

end Section

def schema : List Section :=
  [.server, .dispatch, .backend, .remote, .onDevice, .logging]

theorem sections_eq : sections .first = (schema.map Section.field).map Field.setter :=
  rfl

theorem independent_schema : (schema.map Section.field).Pairwise Field.Independent := by
  simp [schema, Field.Independent, Section.field, Section.server, Section.dispatch,
    Section.backend, Section.remote, Section.onDevice, Section.logging]

theorem forall_schema {p : (S : Section) → Field S.Value → Prop} :
    (∀ S ∈ schema, ∀ F ∈ S.fields, p S F) ↔
      (∀ F ∈ Server.settings, p .server F) ∧ (∀ F ∈ Requests.settings, p .dispatch F)
        ∧ (∀ F ∈ backendSettings, p .backend F) ∧ (∀ F ∈ Remote.settings, p .remote F)
        ∧ (∀ F ∈ OnDevice.settings, p .onDevice F) ∧ ∀ F ∈ loggingSettings, p .logging F := by
  simp only [schema, List.forall_mem_cons, List.not_mem_nil, false_implies, implies_true, and_true]
  rfl

theorem get_override (line : CommandLine) (c : Config) : ∀ S ∈ schema, ∀ F ∈ S.fields,
    F.get (S.get (line.override c)) = (F.flag line).getD (F.get (S.get c)) := by
  rw [forall_schema]
  refine ⟨?server, ?dispatch, ?backend, ?remote, ?onDevice, ?logging⟩
  case server =>
    have hconcurrent : (line.concurrent || c.server.concurrent)
        = (if line.concurrent then some true else none).getD c.server.concurrent := by
      cases line.concurrent <;> rfl
    simpa [Server.settings, Section.server, CommandLine.override] using hconcurrent
  case logging =>
    have htranscript : line.transcript.or c.transcript
        = (line.transcript.map some).getD c.transcript := by
      cases line.transcript <;> rfl
    simpa [loggingSettings, Section.logging, CommandLine.override] using htranscript
  case dispatch => simp [Requests.settings, Section.dispatch, CommandLine.override]
  case backend => simp [backendSettings, Section.backend, CommandLine.override]
  case remote => simp [Remote.settings, Section.remote, CommandLine.override]
  case onDevice => simp [OnDevice.settings, Section.onDevice, CommandLine.override]

theorem eq_of_settings {c c' : Config}
    (h : ∀ S ∈ schema, ∀ F ∈ S.fields, F.get (S.get c) = F.get (S.get c')) : c = c' := by
  rw [forall_schema] at h
  obtain ⟨hserver, hdispatch, hbackend, hremote, honDevice, hlogging⟩ := h
  obtain ⟨⟨_, _, _⟩, ⟨_, ⟨_, _, _, _⟩, _, _⟩, _, ⟨_, _, _, _⟩, ⟨_, _, _, _⟩, _⟩ := c
  obtain ⟨⟨_, _, _⟩, ⟨_, ⟨_, _, _, _⟩, _, _⟩, _, ⟨_, _, _, _⟩, ⟨_, _, _, _⟩, _⟩ := c'
  congr 1
  case e_server => simpa [Server.settings, Section.server] using hserver
  case e_requests => simpa [Requests.settings, Section.dispatch, and_assoc] using hdispatch
  case e_backend => simpa [backendSettings, Section.backend] using hbackend
  case e_remote => simpa [Remote.settings, Section.remote] using hremote
  case e_onDevice => simpa [OnDevice.settings, Section.onDevice] using honDevice
  case e_transcript => simpa [loggingSettings, Section.logging] using hlogging

end PromptRelay.Config
