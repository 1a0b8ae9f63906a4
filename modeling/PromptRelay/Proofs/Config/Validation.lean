import Mathlib.Order.WithBotTop
import PromptRelay.ChatService
import PromptRelay.Proofs.Binary.Rounding
import PromptRelay.Proofs.Framer.MarkedLines

/-!
Which configurations can be used: those that meet some requirements, which are looked at in order.
What is said of any other configuration is about the first requirement that it does not meet, and
what can be used is used as it is.
-/

namespace PromptRelay

namespace Binary

abbrev Extended : Type :=
  WithBotTop ℚ

/-- The place of a number on the line. What is not a number has none, and compares with nothing. -/
def place? : Binary → Option Extended
  | nan => none
  | infinite negative => some (if negative then ⊥ else ⊤)
  | finite negative m e => some (((if negative then -1 else 1) * (m * 2 ^ e) : ℚ) : Extended)

variable {x : Binary} {q : ℚ}

theorem place?_eq_coe_iff : x.place? = some (q : Extended) ↔ x.toRat? = some q := by
  cases x with
  | nan => simp [place?, toRat?]
  | infinite negative =>
    have hbot : (⊥ : Extended) ≠ q := (WithBotTop.coe_ne_bot q).symm
    have htop : (⊤ : Extended) ≠ q := (WithBotTop.coe_ne_top q).symm
    cases negative <;> simp [place?, toRat?, hbot, htop]
  | finite negative m e =>
    rw [toRat?_finite, place?, Option.some_inj, Option.some_inj,
      WithBotTop.coe_injective.eq_iff]

theorem any_toRat?_iff {inRange : ℚ → Bool} : x.toRat?.any inRange = true ↔
    ∃ q : ℚ, x.place? = some (q : Extended) ∧ inRange q = true := by
  simp only [place?_eq_coe_iff, Option.any_eq_true]

theorem exists_place_bounded_iff {low high : ℚ} :
    (∃ p, x.place? = some p ∧ (low : Extended) < p ∧ p ≤ (high : Extended)) ↔
      ∃ q : ℚ, x.place? = some (q : Extended) ∧ low < q ∧ q ≤ high := by
  constructor
  · rintro ⟨p, hp, hlow, hhigh⟩
    induction p using WithBotTop.rec with
    | bot => exact absurd hlow not_lt_bot
    | coe q => exact ⟨q, hp, WithBotTop.coe_lt_coe.mp hlow, WithBotTop.coe_le_coe.mp hhigh⟩
    | top => exact absurd (top_le_iff.mp hhigh) (WithBotTop.coe_ne_top high)
  · rintro ⟨q, hq, hlow, hhigh⟩
    exact ⟨q, hq, WithBotTop.coe_lt_coe.mpr hlow, WithBotTop.coe_le_coe.mpr hhigh⟩

end Binary

def HasText (s : String) : Prop :=
  ∃ c ∈ s.toList, Unicode.isWhiteSpace c = false

theorem isBlank_iff (s : String) : Unicode.isBlank s = true ↔ ¬HasText s := by
  rw [Unicode.isBlank, List.isEmpty_iff, trim_eq_nil_iff]
  simp [HasText]

namespace Config

open Binary (Extended)

inductive Requirement where
  | host
  | timeout
  | readBufferSize
  | systemPrompt
  | maxTokens
  | temperature
  | topP
  | repeatPenalty
  | baseUrl
  | remoteModel
  | remoteTimeout
  | modelPath
  | contextSize
  deriving DecidableEq, Repr

namespace Requirement

def all : List Requirement :=
  [host, timeout, readBufferSize, systemPrompt, maxTokens, temperature, topP, repeatPenalty,
    baseUrl, remoteModel, remoteTimeout, modelPath, contextSize]

/-- The requirements on a backend do not concern configurations of the other one. -/
def Met (c : Config) : Requirement → Prop
  | host => HasText c.server.host
  | timeout => c.requests.timeoutSeconds ≠ some 0
  | readBufferSize => 0 < c.requests.readBufferSize
  | systemPrompt => HasText c.requests.systemPrompt
  | maxTokens => 0 < c.requests.sampling.maxTokens
  | temperature => ∀ x, c.requests.sampling.temperature = some x →
      ∃ q : ℚ, x.place? = some (q : Extended) ∧ 0 ≤ q
  | topP => ∀ x, c.requests.sampling.topP = some x →
      ∃ p, x.place? = some p ∧ ((0 : ℚ) : Extended) < p ∧ p ≤ ((1 : ℚ) : Extended)
  | repeatPenalty => ∀ x, c.requests.sampling.repeatPenalty = some x →
      ∃ q : ℚ, x.place? = some (q : Extended) ∧ 0 < q
  | baseUrl => c.backend = .remote → HasText c.remote.baseUrl
  | remoteModel => c.backend = .remote → HasText c.remote.model
  | remoteTimeout => c.backend = .remote → 0 < c.remote.timeoutSeconds
  | modelPath => c.backend = .onDevice → HasText c.onDevice.modelPath
  | contextSize => c.backend = .onDevice →
      0 < c.onDevice.contextSize.getD c.onDevice.profile.contextSize

def error (c : Config) : Requirement → ConfigError
  | host => .emptyHost
  | timeout => .zeroTimeout "dispatch.timeout_secs"
  | readBufferSize => .zeroReadBufferSize
  | systemPrompt => .dispatch .emptySystemPrompt
  | maxTokens => .dispatch .zeroMaxTokens
  | temperature => .dispatch
      (.invalidSampling "temperature" (c.requests.sampling.temperature.getD .nan))
  | topP => .dispatch (.invalidSampling "top_p" (c.requests.sampling.topP.getD .nan))
  | repeatPenalty => .dispatch
      (.invalidSampling "repeat_penalty" (c.requests.sampling.repeatPenalty.getD .nan))
  | baseUrl => .emptyBaseUrl
  | remoteModel => .emptyRemoteModel
  | remoteTimeout => .zeroTimeout "remote.timeout_secs"
  | modelPath => .emptyModelPath
  | contextSize => .zeroContextSize

inductive Finds (c : Config) : List Requirement → Except ConfigError Unit → Prop
  | nil : Finds c [] (.ok ())
  | met {r : Requirement} {rs : List Requirement} {x : Except ConfigError Unit} (h : r.Met c)
      (hrest : Finds c rs x) : Finds c (r :: rs) x
  | unmet {r : Requirement} {rs : List Requirement} (h : ¬r.Met c) :
      Finds c (r :: rs) (.error (r.error c))

variable {c : Config} {r : Requirement} {rs rs' : List Requirement}
  {x y : Except ConfigError Unit}

theorem Finds.ok_iff (h : Finds c rs x) : x = .ok () ↔ ∀ r ∈ rs, r.Met c := by
  induction h with
  | nil => simp
  | met h hrest ih => rw [ih, List.forall_mem_cons, and_iff_right h]
  | unmet h =>
    refine iff_of_false nofun ?_
    intro hall
    exact h (hall _ List.mem_cons_self)

def IsFirstUnmet (c : Config) (rs : List Requirement) (r : Requirement) : Prop :=
  ∃ before after, rs = before ++ r :: after ∧ (∀ q ∈ before, q.Met c) ∧ ¬r.Met c

theorem isFirstUnmet_cons_of_met (h : r.Met c) (q : Requirement) :
    IsFirstUnmet c (r :: rs) q ↔ IsFirstUnmet c rs q := by
  constructor
  · rintro ⟨before, after, hrs, hbefore, hq⟩
    cases before with
    | nil =>
      obtain ⟨rfl, -⟩ := List.cons.inj hrs
      exact absurd h hq
    | cons b before =>
      obtain ⟨-, hrs⟩ := List.cons.inj hrs
      exact ⟨before, after, hrs, (List.forall_mem_cons.mp hbefore).2, hq⟩
  · rintro ⟨before, after, hrs, hbefore, hq⟩
    exact ⟨r :: before, after, congrArg (r :: ·) hrs, List.forall_mem_cons.mpr ⟨h, hbefore⟩, hq⟩

theorem isFirstUnmet_cons_of_unmet (h : ¬r.Met c) (q : Requirement) :
    IsFirstUnmet c (r :: rs) q ↔ q = r := by
  constructor
  · rintro ⟨before, after, hrs, hbefore, -⟩
    cases before with
    | nil => exact (List.cons.inj hrs).1.symm
    | cons b before =>
      obtain ⟨rfl, -⟩ := List.cons.inj hrs
      exact absurd (List.forall_mem_cons.mp hbefore).1 h
  · rintro rfl
    exact ⟨[], rs, rfl, List.forall_mem_nil _, h⟩

theorem Finds.error_iff (h : Finds c rs x) (e : ConfigError) :
    x = .error e ↔ ∃ r, IsFirstUnmet c rs r ∧ r.error c = e := by
  induction h with
  | nil =>
    refine iff_of_false nofun ?_
    rintro ⟨r, ⟨before, after, hrs, -⟩, -⟩
    simp at hrs
  | met h hrest ih => simp only [ih, isFirstUnmet_cons_of_met h]
  | unmet h => simp [isFirstUnmet_cons_of_unmet h]

theorem Finds.bind (h : Finds c rs x) (h' : Finds c rs' y) :
    Finds c (rs ++ rs') (x >>= fun _ => y) := by
  induction h with
  | nil => exact h'
  | met h hrest ih => exact .met h ih
  | unmet h => exact .unmet h

theorem finds_of_forall (h : ∀ r ∈ rs, r.Met c) : Finds c rs (.ok ()) := by
  induction rs with
  | nil => exact .nil
  | cons r rs ih =>
    rw [List.forall_mem_cons] at h
    exact .met h.1 (ih h.2)

theorem Finds.append_of_forall (h : Finds c rs x) (h' : ∀ r ∈ rs', r.Met c) :
    Finds c (rs ++ rs') x := by
  induction h with
  | nil => exact finds_of_forall h'
  | met h hrest ih => exact .met h ih
  | unmet h => exact .unmet h

theorem finds_reject {b : Bool} {e : ConfigError} (hmet : b = true ↔ ¬r.Met c)
    (herror : e = r.error c) : Finds c [r] (reject b e) := by
  cases b with
  | true =>
    subst herror
    exact .unmet (hmet.mp rfl)
  | false =>
    have h : r.Met c := by simpa using hmet
    exact .met h .nil

theorem finds_check {name : String} {inRange : ℚ → Bool} {v : Option Binary}
    (hmet : r.Met c ↔ ∀ x, v = some x → x.toRat?.any inRange = true)
    (herror : r.error c = .dispatch (.invalidSampling name (v.getD .nan))) :
    Finds c [r] ((Sampling.check name inRange v).mapError .dispatch) := by
  cases v with
  | none =>
    have h : r.Met c := hmet.mpr nofun
    exact .met h .nil
  | some x =>
    rw [Sampling.check]
    split_ifs with hx
    · have h : r.Met c := by simpa [hmet] using hx
      exact .met h .nil
    · have h : ¬r.Met c := by simpa [hmet] using hx
      have hunmet : Finds c [r] (.error (r.error c)) := .unmet h
      rw [herror] at hunmet
      exact hunmet

theorem mapError_bind {ε ε' α β : Type} (g : ε → ε') (a : Except ε α) (f : α → Except ε β) :
    (a >>= f).mapError g = a.mapError g >>= fun v => (f v).mapError g := by
  cases a <;> rfl

theorem finds_sampling (c : Config) : Finds c [maxTokens, temperature, topP, repeatPenalty]
    (c.requests.sampling.validate.mapError .dispatch) := by
  have htemperature : Finds c [temperature]
      ((Sampling.check "temperature" (0 ≤ ·) c.requests.sampling.temperature).mapError
        .dispatch) := by
    apply finds_check
    · simp only [Met, Binary.any_toRat?_iff, decide_eq_true_eq]
    · rfl
  have htopP : Finds c [topP]
      ((Sampling.check "top_p" (fun p => 0 < p && p ≤ 1) c.requests.sampling.topP).mapError
        .dispatch) := by
    apply finds_check
    · simp only [Met, Binary.any_toRat?_iff, Binary.exists_place_bounded_iff, Bool.and_eq_true,
        decide_eq_true_eq]
    · rfl
  have hrepeatPenalty : Finds c [repeatPenalty]
      ((Sampling.check "repeat_penalty" (0 < ·) c.requests.sampling.repeatPenalty).mapError
        .dispatch) := by
    apply finds_check
    · simp only [Met, Binary.any_toRat?_iff, decide_eq_true_eq]
    · rfl
  have hchecks := htemperature.bind (htopP.bind hrepeatPenalty)
  rw [Sampling.validate]
  split_ifs with hzero
  · have hunmet : ¬maxTokens.Met c := by simp [Met, hzero]
    exact .unmet hunmet
  · have hmet : maxTokens.Met c := Nat.pos_of_ne_zero hzero
    simp only [mapError_bind]
    exact .met hmet hchecks

theorem finds_dispatch (c : Config) :
    Finds c [systemPrompt, maxTokens, temperature, topP, repeatPenalty]
      (c.requests.dispatch.validate.mapError .dispatch) := by
  have hprompt := isBlank_iff c.requests.systemPrompt
  rw [Dispatch.validate]
  split_ifs with hblank
  · exact .unmet (hprompt.mp hblank)
  · have hmet : systemPrompt.Met c := by
      rw [← not_not (a := systemPrompt.Met c)]
      exact fun h => hblank (hprompt.mpr h)
    exact .met hmet (finds_sampling c)

theorem finds_backend (c : Config) :
    Finds c [baseUrl, remoteModel, remoteTimeout, modelPath, contextSize] c.validateBackend := by
  rw [validateBackend]
  cases hkind : c.backend with
  | remote =>
    have hurl : Finds c [baseUrl] (reject (Unicode.isBlank c.remote.baseUrl) .emptyBaseUrl) :=
      finds_reject (by simp [Met, hkind, isBlank_iff]) rfl
    have hmodel : Finds c [remoteModel]
        (reject (Unicode.isBlank c.remote.model) .emptyRemoteModel) :=
      finds_reject (by simp [Met, hkind, isBlank_iff]) rfl
    have htimeout : Finds c [remoteTimeout]
        (reject (c.remote.timeoutSeconds = 0) (.zeroTimeout "remote.timeout_secs")) :=
      finds_reject (by simp [Met, hkind]) rfl
    have hother : ∀ r ∈ [modelPath, contextSize], r.Met c := by simp [Met, hkind]
    exact (hurl.bind (hmodel.bind htimeout)).append_of_forall hother
  | onDevice =>
    have hother : ∀ r ∈ [baseUrl, remoteModel, remoteTimeout], r.Met c := by simp [Met, hkind]
    have hpath : Finds c [modelPath]
        (reject (Unicode.isBlank c.onDevice.modelPath) .emptyModelPath) :=
      finds_reject (by simp [Met, hkind, isBlank_iff]) rfl
    have hsize : c.onDevice.effectiveContextSize = 0 ↔ ¬contextSize.Met c := by
      simp [Met, hkind, OnDevice.effectiveContextSize]
    have hcontext : Finds c [contextSize]
        (reject (c.onDevice.effectiveContextSize = 0) .zeroContextSize) :=
      finds_reject (decide_eq_true_iff.trans hsize) rfl
    exact (finds_of_forall hother).bind (hpath.bind hcontext)

theorem finds_validate (c : Config) : Finds c all c.validate := by
  have hhost : Finds c [host] (reject (Unicode.isBlank c.server.host) .emptyHost) :=
    finds_reject (isBlank_iff _) rfl
  have htimeout : Finds c [timeout]
      (reject (c.requests.timeoutSeconds = some 0) (.zeroTimeout "dispatch.timeout_secs")) :=
    finds_reject (by simp [Met]) rfl
  have hbuffer : Finds c [readBufferSize]
      (reject (c.requests.readBufferSize = 0) .zeroReadBufferSize) :=
    finds_reject (by simp [Met]) rfl
  exact hhost.bind (htimeout.bind (hbuffer.bind ((finds_dispatch c).bind (finds_backend c))))

end Requirement

/-- Every setting of requests has its effect as it is set, and no time, number of threads or size of
a context is zero. -/
structure IsCarriedOut (c : Config) : Prop where
  systemPrompt : c.requests.dispatch.systemPrompt = c.requests.systemPrompt
  sampling : c.requests.dispatch.sampling = c.requests.sampling
  timeout : c.requests.dispatch.timeout = c.requests.timeoutSeconds.map (1000 * ·)
  readBufferSize : c.requests.dispatch.readBufferSize = c.requests.readBufferSize
  valid : c.requests.dispatch.validate = .ok ()
  timeout_pos : ∀ ms, c.requests.dispatch.timeout = some ms → 0 < ms
  service_timeout_pos : c.backend = .remote → ∀ environment k,
    key environment c.remote.keyVariable = .ok k →
      ∃ r, c.service environment = .ok r ∧ r.timeout = 1000 * c.remote.timeoutSeconds ∧
        0 < r.timeout
  threads_pos : 0 < c.onDevice.loading.threads
  contextSize_pos : c.backend = .onDevice → 0 < c.onDevice.loading.contextSize

open Requirement (IsFirstUnmet)

variable {c : Config}

theorem service_eq (hkind : c.backend = .remote) {environment : List (String × String)} {k : String}
    (hk : key environment c.remote.keyVariable = .ok k) :
    c.service environment =
      .ok ⟨ChatService.endpointOf c.remote.baseUrl, c.remote.model, k,
        1000 * c.remote.timeoutSeconds⟩ := by
  simp [service, hkind, hk, bind, Except.bind, pure, Except.pure]

theorem forall_met_of_validate (h : c.validate = .ok ()) (r : Requirement) : r.Met c := by
  apply (Requirement.finds_validate c).ok_iff.mp h
  cases r <;> decide

theorem isCarriedOut_of_validate (h : c.validate = .ok ()) : c.IsCarriedOut := by
  have hmet := forall_met_of_validate h
  refine
    { systemPrompt := rfl
      sampling := rfl
      timeout := rfl
      readBufferSize := ?size
      valid := ?valid
      timeout_pos := ?timeout
      service_timeout_pos := ?service
      threads_pos := Nat.lt_of_lt_of_le Nat.one_pos (Nat.le_max_right _ _)
      contextSize_pos := hmet .contextSize }
  case size =>
    exact Nat.max_eq_left (hmet .readBufferSize)
  case valid =>
    have hdispatch := (Requirement.finds_dispatch c).ok_iff.mpr fun r _ => hmet r
    cases hvalidate : c.requests.dispatch.validate with
    | ok => rfl
    | error e =>
      rw [hvalidate] at hdispatch
      cases hdispatch
  case timeout =>
    intro ms hms
    obtain ⟨seconds, hseconds, rfl⟩ := Option.map_eq_some_iff.mp hms
    have hne : seconds ≠ 0 := by
      rintro rfl
      exact hmet .timeout hseconds
    omega
  case service =>
    intro hkind environment k hk
    have hpos : 0 < c.remote.timeoutSeconds := hmet .remoteTimeout hkind
    exact ⟨_, service_eq hkind hk, rfl, Nat.mul_pos (Nat.succ_pos 999) hpos⟩

theorem validate_decided (c : Config) :
    (c.validate = .ok () ↔ ∀ r ∈ Requirement.all, r.Met c) ∧
      (∀ e, c.validate = .error e ↔ ∃ r, IsFirstUnmet c Requirement.all r ∧ r.error c = e) ∧
      (c.validate = .ok () → c.IsCarriedOut) := by
  have hfinds := Requirement.finds_validate c
  exact ⟨hfinds.ok_iff, hfinds.error_iff, isCarriedOut_of_validate⟩

def tuned : Config where
  requests :=
    { sampling :=
        { maxTokens := 1
          temperature := some (.finite true 0 (-149))
          topP := some (.finite false 8388608 (-23))
          repeatPenalty := some (.finite false 1 (-149)) }
      timeoutSeconds := some 1
      readBufferSize := 1 }
  backend := .onDevice
  remote := { baseUrl := "", timeoutSeconds := 0 }
  onDevice := { profile := .conversational, threads := 0 }

theorem validate_decided_tuned : tuned.validate = .ok () ∧ tuned.IsCarriedOut := by
  have hvalid : tuned.validate = .ok () := by decide +kernel
  exact ⟨hvalid, (validate_decided tuned).2.2 hvalid⟩

example : ({ tuned with
    requests := { sampling := { temperature := some .nan, topP := some (.infinite false) } }
    onDevice := { contextSize := some 0 } } : Config).validate =
      .error (.dispatch (.invalidSampling "temperature" .nan)) := by
  decide +kernel

end Config

end PromptRelay
