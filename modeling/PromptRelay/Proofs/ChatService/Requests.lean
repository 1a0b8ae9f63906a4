import Mathlib.Tactic.SplitIfs
import PromptRelay.ChatService

namespace PromptRelay.ChatService

def IsWebAddress (s : String) : Prop :=
  ∃ url, Http.Url.read? s = some url ∧ url.host.getD "" ≠ "" ∧ url.scheme ∈ schemes

variable {r : ChatService} {c : Call} {q : Http.Request}

theorem request_eq_ok_iff : r.request c = .ok q ↔
    ∃ url, (Http.Url.read? r.endpoint = some url ∧ url.host.getD "" ≠ "" ∧ url.scheme ∈ schemes) ∧
      isHeaderValue r.key = true ∧
      q = { url := url.withoutUser
            userAuthorization := url.userAuthorization?
            authorization := "Bearer " ++ r.key
            body := (r.body c).text } := by
  unfold ChatService.request
  constructor
  · intro h
    split at h
    next => cases h
    next url hread =>
      split_ifs at h with hhost hkey hscheme
      refine ⟨url, ⟨hread, hhost, ?_⟩, by simpa using hkey, (Except.ok.inj h).symm⟩
      simpa using hscheme
  · rintro ⟨url, ⟨hread, hhost, hscheme⟩, hkey, rfl⟩
    simp [hread, hhost, hkey, hscheme]

theorem exists_request_iff (r : ChatService) (c : Call) :
    (∃ q, r.request c = .ok q) ↔ IsWebAddress r.endpoint ∧ isHeaderValue r.key = true := by
  constructor
  · rintro ⟨q, hq⟩
    obtain ⟨url, hurl, hkey, -⟩ := request_eq_ok_iff.mp hq
    exact ⟨⟨url, hurl⟩, hkey⟩
  · rintro ⟨⟨url, hurl⟩, hkey⟩
    exact ⟨_, request_eq_ok_iff.mpr ⟨url, hurl, hkey, rfl⟩⟩

theorem body_of_request (h : r.request c = .ok q) : q.body = (r.body c).text := by
  obtain ⟨url, -, -, rfl⟩ := request_eq_ok_iff.mp h
  rfl

end PromptRelay.ChatService
