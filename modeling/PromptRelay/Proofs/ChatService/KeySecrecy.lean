import PromptRelay.Proofs.ChatService.Requests
import PromptRelay.Proofs.Config.Validation

/-!
The key of a chat service goes into one header of its requests and nowhere else: what clients, logs
and transcripts are told is the same with any other key.
-/

namespace PromptRelay

namespace Http

abbrev Script := List Request → Exchange

def Request.anonymous (q : Request) : Request :=
  { q with authorization := "" }

/-- The service does not look at who sends a request, nor at who sent those before it. -/
def Script.IgnoresSender (script : Script) : Prop :=
  ∀ ⦃earlier earlier' q q'⦄, earlier.map Request.anonymous = earlier'.map Request.anonymous →
    q.anonymous = q'.anonymous → script earlier q = script earlier' q'

end Http

namespace ChatService

open Http (Script)

def requests (r : ChatService) (calls : List Call) : List Http.Request :=
  calls.filterMap fun c => (r.request c).toOption

/-- The backend over a service that may remember the requests it got. -/
def backendOver (r : ChatService) (script : Script) : Backend where
  kind := .remote
  description := r.description
  answer earlier c := (r.backend (script (r.requests earlier))).answer earlier c

theorem backendOver_const (r : ChatService) (exchange : Http.Exchange) :
    r.backendOver (fun _ => exchange) = r.backend exchange :=
  rfl

/-- Two attempts to send a request: both fail alike where there is no place to go to, and elsewhere
the requests differ in the keys that they show. -/
inductive DifferInKey (endpoint k₁ k₂ : String) : Except Http.TransportError Http.Request →
    Except Http.TransportError Http.Request → Prop
  | refused (e : Http.TransportError) (h : ¬IsWebAddress endpoint) :
      DifferInKey endpoint k₁ k₂ (.error e) (.error e)
  | sent (q : Http.Request) (h : IsWebAddress endpoint) :
      DifferInKey endpoint k₁ k₂ (.ok { q with authorization := "Bearer " ++ k₁ })
        (.ok { q with authorization := "Bearer " ++ k₂ })

variable {r : ChatService} {endpoint k₁ k₂ : String}
  {x₁ x₂ : Except Http.TransportError Http.Request}

theorem DifferInKey.map_eq (h : DifferInKey endpoint k₁ k₂ x₁ x₂) {α : Type}
    {f₁ f₂ : Http.Request → α}
    (hf : ∀ ⦃q₁ q₂⦄, q₁.anonymous = q₂.anonymous → f₁ q₁ = f₂ q₂) : x₁.map f₁ = x₂.map f₂ := by
  cases h with
  | refused e => rfl
  | sent q => exact congrArg Except.ok (hf rfl)

theorem DifferInKey.authorization (h : DifferInKey endpoint k₁ k₂ x₁ x₂)
    (hweb : IsWebAddress endpoint) :
    x₁.map (·.authorization) = .ok ("Bearer " ++ k₁) ∧
      x₂.map (·.authorization) = .ok ("Bearer " ++ k₂) := by
  cases h with
  | refused e h => exact absurd hweb h
  | sent q => exact ⟨rfl, rfl⟩

theorem differInKey_request (h₁ : isHeaderValue k₁ = true) (h₂ : isHeaderValue k₂ = true)
    (c : Call) :
    DifferInKey r.endpoint k₁ k₂ ({ r with key := k₁ }.request c)
      ({ r with key := k₂ }.request c) := by
  unfold ChatService.request
  simp only [h₁, h₂, Bool.not_true, Bool.false_eq_true, if_false]
  cases hread : Http.Url.read? r.endpoint with
  | none => exact .refused _ (by simp [IsWebAddress, hread])
  | some url =>
    dsimp only
    split_ifs with hhost hscheme
    · exact .refused _ (by simp [IsWebAddress, hread, hhost])
    · exact .refused _ (by simpa [IsWebAddress, hread, hhost] using hscheme)
    · exact .sent
        { url := url.withoutUser
          userAuthorization := url.userAuthorization?
          authorization := ""
          body := (r.body c).text }
        ⟨url, hread, hhost, by simpa using hscheme⟩

theorem map_anonymous_requests (r : ChatService) (calls : List Call) :
    (r.requests calls).map Http.Request.anonymous =
      calls.filterMap fun c => ((r.request c).map Http.Request.anonymous).toOption := by
  rw [requests, List.map_filterMap]
  congr 1
  funext c
  cases r.request c <;> rfl

theorem complete_congr {r' : ChatService} {exchange exchange' : Http.Exchange} {c : Call}
    (htimeout : r.timeout = r'.timeout)
    (h : (r.request c).map exchange = (r'.request c).map exchange') :
    r.complete exchange c = r'.complete exchange' c := by
  unfold complete
  cases hr : r.request c with
  | error e =>
    cases hr' : r'.request c with
    | error e' =>
      rw [hr, hr'] at h
      rw [Except.error.inj h]
    | ok q' =>
      rw [hr, hr'] at h
      cases h
  | ok q =>
    cases hr' : r'.request c with
    | error e' =>
      rw [hr, hr'] at h
      cases h
    | ok q' =>
      rw [hr, hr'] at h
      dsimp only
      rw [Except.ok.inj h, htimeout]

theorem answer_backendOver (h₁ : isHeaderValue k₁ = true) (h₂ : isHeaderValue k₂ = true)
    {script : Script} (hscript : script.IgnoresSender) (earlier : List Call) (c : Call) :
    ({ r with key := k₁ }.backendOver script).answer earlier c =
      ({ r with key := k₂ }.backendOver script).answer earlier c := by
  have hrequest (c : Call) := differInKey_request (r := r) h₁ h₂ c
  have hearlier : ({ r with key := k₁ }.requests earlier).map Http.Request.anonymous =
      ({ r with key := k₂ }.requests earlier).map Http.Request.anonymous := by
    simp only [map_anonymous_requests, (hrequest _).map_eq fun _ _ hq => hq]
  have hexchange := (hrequest c).map_eq fun q₁ q₂ hq => hscript hearlier hq
  have hcomplete :
      { r with key := k₁ }.complete (script ({ r with key := k₁ }.requests earlier)) c =
        { r with key := k₂ }.complete (script ({ r with key := k₂ }.requests earlier)) c :=
    complete_congr rfl hexchange
  exact congrArg (fun x : ℕ × Reply => Answer.mk x.1 (.ok x.2)) hcomplete

theorem backendOver_key (h₁ : isHeaderValue k₁ = true) (h₂ : isHeaderValue k₂ = true)
    {script : Script} (hscript : script.IgnoresSender) :
    { r with key := k₁ }.backendOver script = { r with key := k₂ }.backendOver script := by
  have hanswer := funext₂ (answer_backendOver (r := r) h₁ h₂ hscript)
  unfold backendOver at hanswer ⊢
  dsimp only at hanswer ⊢
  rw [hanswer]
  rfl

structure Indistinguishable (script : Script) (r₁ r₂ : ChatService) : Prop where
  endpoint : r₁.endpoint = r₂.endpoint
  description : r₁.description = r₂.description
  request : ∀ c, DifferInKey r₁.endpoint r₁.key r₂.key (r₁.request c) (r₂.request c)
  answer : ∀ earlier c,
    (r₁.backendOver script).answer earlier c = (r₂.backendOver script).answer earlier c
  session : ∀ d earlier connection s,
    Session.run ⟨r₁.backendOver script, d⟩ earlier connection s =
      Session.run ⟨r₂.backendOver script, d⟩ earlier connection s

theorem indistinguishable_key (r : ChatService) (h₁ : isHeaderValue k₁ = true)
    (h₂ : isHeaderValue k₂ = true) {script : Script} (hscript : script.IgnoresSender) :
    Indistinguishable script { r with key := k₁ } { r with key := k₂ } where
  endpoint := rfl
  description := rfl
  request := differInKey_request h₁ h₂
  answer := answer_backendOver h₁ h₂ hscript
  session d earlier connection s := by rw [backendOver_key h₁ h₂ hscript]

end ChatService

namespace Config

def keyOf (value : String) : String :=
  String.ofList (Unicode.trim value.toList)

structure OffersKey (environment : List (String × String)) (name value : String) : Prop where
  lookup : environment.lookup name = some value
  hasText : HasText value
  isHeaderValue : ChatService.isHeaderValue (keyOf value) = true

theorem keyOf_ne_empty {value : String} (h : HasText value) : keyOf value ≠ "" := by
  have hblank : ¬Unicode.isBlank value = true := fun hblank => (isBlank_iff value).mp hblank h
  intro hempty
  have hnil : Unicode.trim value.toList = [] := by
    simpa [keyOf] using congrArg String.toList hempty
  exact hblank (by rw [Unicode.isBlank, hnil]; rfl)

theorem key_of_offersKey {environment : List (String × String)} {name value : String}
    (h : OffersKey environment name value) : key environment name = .ok (keyOf value) := by
  rw [key, h.lookup]
  exact if_neg (keyOf_ne_empty h.hasText)

theorem key_confined (c : Config) {environment₁ environment₂ : List (String × String)}
    {value₁ value₂ : String} (h₁ : OffersKey environment₁ c.remote.keyVariable value₁)
    (h₂ : OffersKey environment₂ c.remote.keyVariable value₂) {script : Http.Script}
    (hscript : script.IgnoresSender) :
    (c.backend = .onDevice → c.service environment₁ = .error (.model .unavailable) ∧
      c.service environment₂ = .error (.model .unavailable)) ∧
    (c.backend = .remote → ∃ r₁ r₂, c.service environment₁ = .ok r₁ ∧
      c.service environment₂ = .ok r₂ ∧ r₁.key = keyOf value₁ ∧ r₂.key = keyOf value₂ ∧
      ChatService.Indistinguishable script r₁ r₂) := by
  constructor
  · intro hkind
    constructor <;> rw [service, hkind]
  · intro hkind
    have hr₁ := service_eq hkind (key_of_offersKey h₁)
    have hr₂ := service_eq hkind (key_of_offersKey h₂)
    exact ⟨_, _, hr₁, hr₂, rfl, rfl, ChatService.indistinguishable_key
      ⟨_, _, "", _⟩ h₁.isHeaderValue h₂.isHeaderValue hscript⟩

def quoting : Http.Script := fun earlier q =>
  (earlier.length, .ok { status := 401, body := Utf8.encode q.body.toList })

theorem key_confined_quoting :
    OffersKey [("GROQ_API_KEY", " sk-1\n")] "GROQ_API_KEY" " sk-1\n" ∧
      OffersKey [("A", "b"), ("GROQ_API_KEY", "sk-\t2")] "GROQ_API_KEY" "sk-\t2" ∧
      quoting.IgnoresSender ∧
      ∃ r₁ r₂, ({} : Config).service [("GROQ_API_KEY", " sk-1\n")] = .ok r₁ ∧
        ({} : Config).service [("A", "b"), ("GROQ_API_KEY", "sk-\t2")] = .ok r₂ ∧
        r₁.key = keyOf " sk-1\n" ∧ r₂.key = keyOf "sk-\t2" ∧
        ChatService.Indistinguishable quoting r₁ r₂ ∧
        ∀ c, (r₁.request c).map (·.authorization) = .ok "Bearer sk-1" ∧
          (r₂.request c).map (·.authorization) = .ok "Bearer sk-\t2" := by
  have h₁ : OffersKey [("GROQ_API_KEY", " sk-1\n")] "GROQ_API_KEY" " sk-1\n" :=
    ⟨by decide, ⟨'s', by decide, by decide⟩, by decide⟩
  have h₂ : OffersKey [("A", "b"), ("GROQ_API_KEY", "sk-\t2")] "GROQ_API_KEY" "sk-\t2" :=
    ⟨by decide, ⟨'s', by decide, by decide⟩, by decide⟩
  have hscript : quoting.IgnoresSender := by
    intro earlier earlier' q q' hearlier hq
    have hlength : earlier.length = earlier'.length := by
      simpa using congrArg List.length hearlier
    have hbody : q.body = q'.body := congrArg (·.body) hq
    rw [quoting, quoting, hlength, hbody]
  obtain ⟨r₁, r₂, hr₁, hr₂, hkey₁, hkey₂, hsame⟩ := (key_confined {} h₁ h₂ hscript).2 rfl
  have hweb : ChatService.IsWebAddress r₁.endpoint := by
    obtain rfl := Except.ok.inj ((service_eq rfl (key_of_offersKey h₁)).symm.trans hr₁)
    refine ⟨{ scheme := "https", host := some "api.groq.com",
              path := "/openai/v1/chat/completions" }, ?_, ?_, ?_⟩ <;> decide +kernel
  have hshown (c : Call) := (hsame.request c).authorization hweb
  have hfirst : keyOf " sk-1\n" = "sk-1" := by decide
  have hsecond : keyOf "sk-\t2" = "sk-\t2" := by decide
  simp only [hkey₁, hkey₂, hfirst, hsecond] at hshown
  exact ⟨h₁, h₂, hscript, r₁, r₂, hr₁, hr₂, hkey₁, hkey₂, hsame, hshown⟩

end Config

end PromptRelay
