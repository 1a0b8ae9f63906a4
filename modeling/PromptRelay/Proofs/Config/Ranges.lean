import PromptRelay.Proofs.Binary.Widening
import PromptRelay.Proofs.Config.Layering
import PromptRelay.Proofs.Except

namespace PromptRelay

open Binary (Format)

namespace CommandLine

def PortFits (c : CommandLine) : Prop :=
  ∀ port, c.port = some port → port < Nat.pow 2 16

variable {c c' : CommandLine} {d d' : Draft}

theorem lt_of_readPort? {s : String} {port : ℕ} (h : readPort? s = some port) :
    port < Nat.pow 2 16 := by
  unfold readPort? at h
  dsimp only at h
  split_ifs at h with hdigits hlt
  obtain rfl := Option.some.inj h
  exact hlt

theorem eq_of_once {α β : Type} {old : Option α} {new : Except Refusal β} {x : β}
    (h : once old new = .ok x) : new = .ok x := by
  unfold once at h
  split_ifs at h
  exact h

theorem PortFits.setNamed (hc : c.PortFits) {value : String} {n : Named}
    (h : c.setNamed value n = .ok c') : c'.PortFits := by
  cases n <;> replace h := eq_of_once h
  case host =>
    obtain rfl := Except.ok.inj h
    exact hc
  case port =>
    obtain ⟨port, hport, h⟩ := exists_ok_of_bind h
    obtain rfl := Except.ok.inj h
    rintro port' ⟨⟩
    unfold required at hport
    split at hport
    next heq =>
      obtain rfl := Except.ok.inj hport
      exact lt_of_readPort? heq
    next => cases hport
  all_goals
    obtain ⟨x, -, h⟩ := exists_ok_of_bind h
    obtain rfl := Except.ok.inj h
    exact hc

theorem PortFits.setSwitch (hc : c.PortFits) {s : Switch} (h : c.setSwitch s = .ok c') :
    c'.PortFits := by
  have hflag {old : Bool} {new : CommandLine} (h : setFlag old new = .ok c') : new = c' := by
    unfold setFlag at h
    split_ifs at h
    exact Except.ok.inj h
  cases s with
  | verbose =>
    obtain rfl := Except.ok.inj h
    exact hc
  | help => cases h
  | version => cases h
  | _ =>
    obtain rfl := hflag h
    exact hc

theorem PortFits.settle (hd : d.line.PortFits) (h : d.settle = .ok d') : d'.line.PortFits := by
  unfold Draft.settle at h
  split at h
  · obtain rfl := Except.ok.inj h
    exact hd
  · cases h
  · obtain ⟨c, hc, h⟩ := exists_ok_of_bind h
    obtain rfl := Except.ok.inj h
    exact hd.setNamed hc

theorem PortFits.takeNamed (hd : d.line.PortFits) {n : Named} {value : Option String}
    (h : d.takeNamed n value = .ok d') : d'.line.PortFits := by
  obtain ⟨settled, hsettled, h⟩ := exists_ok_of_bind h
  have hfits := hd.settle hsettled
  cases value with
  | none =>
    obtain rfl := Except.ok.inj h
    exact hfits
  | some v =>
    obtain ⟨c, hc, h⟩ := exists_ok_of_bind h
    obtain rfl := Except.ok.inj h
    exact hfits.setNamed hc

theorem PortFits.takeSwitch (hd : d.line.PortFits) {s : Switch} (h : d.takeSwitch s = .ok d') :
    d'.line.PortFits := by
  obtain ⟨settled, hsettled, h⟩ := exists_ok_of_bind h
  obtain ⟨c, hc, h⟩ := exists_ok_of_bind h
  obtain rfl := Except.ok.inj h
  exact (hd.settle hsettled).setSwitch hc

theorem PortFits.takeLetters (hd : d.line.PortFits) {s : List Char}
    (h : d.takeLetters s = .ok d') : d'.line.PortFits := by
  induction s generalizing d with
  | nil =>
    obtain rfl := Except.ok.inj h
    exact hd
  | cons c rest ih =>
    unfold Draft.takeLetters at h
    split at h
    · cases h
    · obtain ⟨next, hnext, h⟩ := exists_ok_of_bind h
      exact ih (hd.takeSwitch hnext) h
    · split at h <;> exact hd.takeNamed h

theorem PortFits.takeLong (hd : d.line.PortFits) {s : List Char} (h : d.takeLong s = .ok d') :
    d'.line.PortFits := by
  unfold Draft.takeLong at h
  dsimp only at h
  split at h
  · cases h
  · exact hd.takeNamed h
  · cases h
  · exact hd.takeSwitch h

theorem PortFits.take (hd : d.line.PortFits) {argument : String} (h : d.take argument = .ok d') :
    d'.line.PortFits := by
  unfold Draft.take at h
  split_ifs at h
  split at h
  · obtain rfl := Except.ok.inj h
    exact hd
  · exact hd.takeLong h
  · exact hd.takeLetters h
  · split at h
    · obtain rfl := Except.ok.inj h
      exact hd
    · cases h

theorem portFits_of_read {arguments : List String} (h : read arguments = .ok c) : c.PortFits := by
  obtain ⟨d, hd, h⟩ := exists_ok_of_bind h
  obtain ⟨settled, hsettled, h⟩ := exists_ok_of_bind h
  obtain rfl := Except.ok.inj h
  have hfits : d.line.PortFits :=
    foldlM_keeps (P := fun d : Draft => d.line.PortFits) (fun _ _ _ _ hstep hd => hd.take hstep) hd
      fun _ h => by cases h
  exact hfits.settle hsettled

end CommandLine

namespace SettingReader

variable {v : Setting} {n limit : ℕ} {type : String} {x : Binary}

theorem lt_of_nat (h : nat type limit v = .ok n) : n < limit := by
  unfold nat at h
  split at h
  · split_ifs at h with hlt
    · obtain rfl := Except.ok.inj h
      exact hlt
    · cases h
  · split_ifs at h with hlt
    · obtain rfl := Except.ok.inj h
      omega
    · cases h
  · cases h

theorem has_of_single (h : single v = .ok x) : Format.single.Has x := by
  unfold single at h
  split at h
  · obtain rfl := Except.ok.inj h
    exact Binary.has_round _ (by decide) (by decide) one_ne_zero _
  · obtain rfl := Except.ok.inj h
    exact Binary.has_round _ (by decide) (by decide) one_ne_zero _
  · obtain rfl := Except.ok.inj h
    exact Binary.has_convert (by decide) (by decide) _
  · cases h

theorem of_optional {α : Type} {read : SettingReader α} {x : α}
    (h : optional read v = .ok (some x)) : read v = .ok x := by
  unfold optional at h
  split at h
  · cases h
  · cases hv : read v with
    | error e =>
      rw [hv] at h
      cases h
    | ok y =>
      rw [hv] at h
      obtain rfl := Option.some.inj (Except.ok.inj h)
      rfl

end SettingReader

namespace Config

open SettingReader

namespace Field

variable {α : Type} {fields : List (Field α)} {F : Field α} {default x y : α}

def Stems (F : Field α) (default x : α) : Prop :=
  F.get x = F.get default ∨ ∃ v, F.read v = .ok (F.get x)

theorem Stems.set (hx : F.Stems default x) (h : fields.Pairwise Independent) (hF : F ∈ fields)
    {f : Setter α} (hf : f ∈ fields.map setter) {v : Setting} (hstep : f.2 v x = .ok y) :
    F.Stems default y := by
  obtain ⟨G, hG, rfl⟩ := List.mem_map.mp hf
  obtain ⟨value, hread, rfl⟩ := get_of_setter hstep
  by_cases hsame : F = G
  · subst hsame
    exact .inr ⟨v, hread.trans (congrArg Except.ok (F.get_set x value).symm)⟩
  · have hget := (h.forall hF hG hsame).2.1 x value
    rw [Stems, hget]
    exact hx

theorem stems_of_record (h : fields.Pairwise Independent) (hF : F ∈ fields) {type : String}
    {v : Setting} (hrecord : record type (fields.map setter) default v = .ok x) :
    F.Stems default x := by
  cases v with
  | dict members =>
    rw [record_dict] at hrecord
    refine foldlM_keeps (P := F.Stems default) ?_ hrecord (.inl rfl)
    rintro ⟨n, v⟩ - x y hstep hx
    unfold assign at hstep
    split at hstep
    next hlookup => exact hx.set h hF (mem_of_lookup hlookup) (eq_ok_of_within hstep)
    next =>
      obtain rfl := Except.ok.inj hstep
      exact hx
  | list items =>
    refine foldlM_keeps (P := F.Stems default) ?_ hrecord (.inl rfl)
    rintro ⟨⟨f, v⟩, i⟩ hmem x y hstep hx
    have hf := (List.of_mem_zip (List.fst_mem_of_mem_zipIdx hmem)).1
    exact hx.set h hF hf (eq_ok_of_within hstep)
  | _ => cases hrecord

end Field

variable {w : Surroundings} {line : CommandLine} {c : Config}

theorem stems_of_ofSetting {v : Setting} (h : ofSetting .first v = .ok c) {S : Section}
    (hS : S ∈ schema) {F : Field S.Value} (hF : F ∈ S.fields) : F.Stems (S.get {}) (S.get c) := by
  rw [ofSetting, sections_eq] at h
  rcases Field.stems_of_record independent_schema (List.mem_map_of_mem hS) h with hdefault | ⟨v, hv⟩
  · exact .inl (congrArg F.get hdefault)
  · exact Field.stems_of_record S.independent hF hv

theorem stems_of_configuration (h : Program.configuration w line = .ok c) {S : Section}
    (hS : S ∈ schema) {F : Field S.Value} (hF : F ∈ S.fields) :
    F.flag line = some (F.get (S.get c)) ∨ F.Stems (S.get {}) (S.get c) := by
  obtain ⟨loaded, hloaded, rfl⟩ := exists_loaded h
  have hget := get_override line loaded S hS F hF
  cases hflag : F.flag line with
  | some value =>
    rw [hflag] at hget
    exact .inl (congrArg some hget.symm)
  | none =>
    rw [hflag] at hget
    right
    rw [Field.Stems, hget]
    split_ifs at hloaded
    · obtain rfl := Except.ok.inj hloaded
      exact .inl rfl
    · unfold load at hloaded
      split at hloaded
      · cases hloaded
      · exact stems_of_ofSetting hloaded hS hF

structure Fits (c : Config) : Prop where
  port : c.server.port < Nat.pow 2 16
  maxTokens : c.requests.sampling.maxTokens < Nat.pow 2 32
  temperature : ∀ x, c.requests.sampling.temperature = some x → Format.single.Has x
  topP : ∀ x, c.requests.sampling.topP = some x → Format.single.Has x
  repeatPenalty : ∀ x, c.requests.sampling.repeatPenalty = some x → Format.single.Has x
  requestTimeout : ∀ n, c.requests.timeoutSeconds = some n → n < Nat.pow 2 64
  readBufferSize : c.requests.readBufferSize < Nat.pow 2 64
  remoteTimeout : c.remote.timeoutSeconds < Nat.pow 2 64
  contextSize : ∀ n, c.onDevice.contextSize = some n → n < Nat.pow 2 32
  threads : c.onDevice.threads < Nat.pow 2 32

theorem fits_of_configuration {arguments : List String}
    (hline : CommandLine.read arguments = .ok line)
    (h : Program.configuration w line = .ok c) : c.Fits := by
  have hstems : ∀ S ∈ schema, ∀ F ∈ S.fields,
      F.flag line = some (F.get (S.get c)) ∨ F.Stems (S.get {}) (S.get c) :=
    fun S hS F hF => stems_of_configuration h hS hF
  have hport := CommandLine.portFits_of_read hline
  rw [forall_schema] at hstems
  obtain ⟨hserver, hrequests, -, hremote, honDevice, -⟩ := hstems
  simp only [Server.settings, Requests.settings, Remote.settings, OnDevice.settings,
    List.forall_mem_cons, Field.Stems, reduceCtorEq, false_or]
    at hserver hrequests hremote honDevice
  have hnat {type : String} {limit default n : ℕ} (hdefault : default < limit)
      (h : n = default ∨ ∃ v, nat type limit v = .ok n) : n < limit := by
    rcases h with rfl | ⟨v, hv⟩
    · exact hdefault
    · exact lt_of_nat hv
  have hoption {α : Type} {read : SettingReader α} {p : α → Prop}
      (hread : ∀ v x, read v = .ok x → p x) {o : Option α}
      (h : o = none ∨ ∃ v, optional read v = .ok o) : ∀ x, o = some x → p x := by
    rintro x rfl
    obtain ⟨v, hv⟩ := h.resolve_left nofun
    exact hread v x (of_optional hv)
  obtain ⟨-, hserverPort, -⟩ := hserver
  obtain ⟨-, hmaxTokens, htemperature, htopP, hrepeatPenalty, hrequestTimeout, hreadBufferSize,
    -⟩ := hrequests
  obtain ⟨-, -, -, hremoteTimeout, -⟩ := hremote
  obtain ⟨-, -, hcontextSize, hthreads, -⟩ := honDevice
  exact {
    port := hserverPort.elim (hport _) (hnat (by decide))
    maxTokens := hnat (by decide) hmaxTokens
    temperature := hoption (fun _ _ => has_of_single) htemperature
    topP := hoption (fun _ _ => has_of_single) htopP
    repeatPenalty := hoption (fun _ _ => has_of_single) hrepeatPenalty
    requestTimeout := hoption (fun _ _ => lt_of_nat) hrequestTimeout
    readBufferSize := hnat (by decide) hreadBufferSize
    remoteTimeout := hnat (by decide) hremoteTimeout
    contextSize := hoption (fun _ _ => lt_of_nat) hcontextSize
    threads := hnat (by decide) hthreads }

end Config

end PromptRelay
