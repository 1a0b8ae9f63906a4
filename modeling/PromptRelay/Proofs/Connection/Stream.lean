import Mathlib.Data.Nat.Notation
import PromptRelay.Connection
import PromptRelay.Utf8.Sequence

namespace PromptRelay

def streamOf : List Arrival → List UInt8 × Option String
  | .bytes (b :: bs) :: rest => (b :: bs ++ (streamOf rest).1, (streamOf rest).2)
  | .broken cause :: _ => ([], some cause)
  | _ => ([], none)

namespace Connection

def stream (c : Connection) : List UInt8 :=
  (streamOf c.arrivals).1

def failure? (c : Connection) : Option String :=
  (streamOf c.arrivals).2

theorem streamOf_bytes {bs : List UInt8} (hne : bs ≠ []) (rest : List Arrival) :
    streamOf (.bytes bs :: rest) = (bs ++ (streamOf rest).1, (streamOf rest).2) := by
  cases bs with
  | nil => exact absurd rfl hne
  | cons b bs => rfl

theorem stream_read {c : Connection} {n : ℕ} {bytes : List UInt8} (hne : bytes ≠ [])
    (h : (c.read n).1 = .ok bytes) :
    c.stream = bytes ++ (c.read n).2.stream ∧ c.failure? = (c.read n).2.failure? := by
  unfold stream failure?
  rcases hc : c.arrivals with _ | ⟨a, rest⟩
  · simp [read, hc] at h
    exact absurd h hne
  · cases a with
    | broken cause => simp [read, hc] at h
    | bytes bs =>
      simp only [read, hc, Except.ok.injEq] at h ⊢
      subst h
      have hbs : bs ≠ [] := by
        rintro rfl
        exact hne List.take_nil
      rw [streamOf_bytes hbs]
      by_cases hleft : bs.drop n = []
      · have htake : bs.take n = bs := by
          have hsplit := List.take_append_drop n bs
          rwa [hleft, List.append_nil] at hsplit
        simp [hleft, htake]
      · simp [hleft, streamOf_bytes hleft, ← List.append_assoc]

theorem stream_of_read_nil {c : Connection} {n : ℕ} (hn : 0 < n) (h : (c.read n).1 = .ok []) :
    c.stream = [] ∧ c.failure? = none := by
  unfold stream failure?
  rcases hc : c.arrivals with _ | ⟨a, rest⟩
  · exact ⟨rfl, rfl⟩
  · cases a with
    | broken cause => simp [read, hc] at h
    | bytes bs =>
      simp only [read, hc, Except.ok.injEq, List.take_eq_nil_iff] at h
      obtain rfl : bs = [] := h.resolve_left (by omega)
      exact ⟨rfl, rfl⟩

theorem stream_of_read_error {c : Connection} {n : ℕ} {cause : String}
    (h : (c.read n).1 = .error cause) : c.stream = [] ∧ c.failure? = some cause := by
  unfold stream failure?
  rcases hc : c.arrivals with _ | ⟨a, rest⟩
  · simp [read, hc] at h
  · cases a with
    | bytes bs => simp [read, hc] at h
    | broken other =>
      simp only [read, hc, Except.error.injEq] at h
      exact ⟨rfl, congrArg some h⟩

theorem read_frame (c : Connection) (n : ℕ) :
    (c.read n).2.accepts = c.accepts ∧ (c.read n).2.flushFailure = c.flushFailure := by
  unfold read
  split <;> exact ⟨rfl, rfl⟩

end Connection

def oneRequest : Connection where
  arrivals := [.bytes (Utf8.encode "AI_REQ: a\n".toList)]

end PromptRelay
