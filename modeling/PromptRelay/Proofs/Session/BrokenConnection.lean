import PromptRelay.Proofs.Session.Delivery

/-!
What becomes of a session when its connection fails: it stops there, and up to there it is the
session that it would have been on a better connection.
-/

namespace PromptRelay

def Signal.failure? : Signal → Option String
  | .broken cause => some cause
  | .taken 0 => some "write zero"
  | _ => none

def Moment.failure? (v : Service) (m : Moment) : Option String :=
  (m.session.signal v m.calls m.connection).1.failure?

/-- The second stream goes on as the first one does, up to where that breaks. -/
inductive Mended : List Arrival → List Arrival → Prop
  | nil : Mended [] []
  | bytes {xs ys : List Arrival} (bs : List UInt8) (h : Mended xs ys) :
      Mended (.bytes bs :: xs) (.bytes bs :: ys)
  | broken (cause : String) (xs ys : List Arrival) : Mended (.broken cause :: xs) ys

structure Connection.IsMended (c better : Connection) : Prop where
  arrivals : Mended c.arrivals better.arrivals
  accepts : ∀ i n k, 0 < k → c.accepts i n = .ok k → better.accepts i n = .ok k
  flushFailure : ∀ i, c.flushFailure i = none → better.flushFailure i = none
  writes : better.writes = c.writes
  flushes : better.flushes = c.flushes

namespace Connection.IsMended

variable {c better : Connection}

theorem read (h : c.IsMended better) {n : ℕ} {bytes : List UInt8}
    (hread : (c.read n).1 = .ok bytes) :
    (better.read n).1 = .ok bytes ∧ (c.read n).2.IsMended (better.read n).2 := by
  obtain ⟨harrivals, haccepts, hflush, hwrites, hflushes⟩ := h
  generalize hxs : c.arrivals = xs at harrivals
  generalize hys : better.arrivals = ys at harrivals
  cases harrivals with
  | nil =>
    simp only [Connection.read, hxs, hys] at hread ⊢
    refine ⟨hread, ?_⟩
    refine ⟨?_, haccepts, hflush, hwrites, hflushes⟩
    rw [hxs, hys]
    exact .nil
  | bytes bs h =>
    simp only [Connection.read, hxs, hys] at hread ⊢
    refine ⟨hread, ?_⟩
    refine ⟨?_, haccepts, hflush, hwrites, hflushes⟩
    simp only
    split_ifs
    · exact h
    · exact .bytes _ h
  | broken cause =>
    simp [Connection.read, hxs] at hread

theorem write (h : c.IsMended better) {left : List UInt8} {n : ℕ} (hpos : 0 < n)
    (hwrite : (c.write left).1 = .ok n) :
    (better.write left).1 = .ok n ∧ (c.write left).2.IsMended (better.write left).2 := by
  obtain ⟨harrivals, haccepts, hflush, hwrites, hflushes⟩ := h
  refine ⟨?_, harrivals, haccepts, hflush, congrArg (· + 1) hwrites, hflushes⟩
  simp only [Connection.write] at hwrite ⊢
  cases haccept : c.accepts c.writes left.length with
  | error cause =>
    rw [haccept] at hwrite
    cases hwrite
  | ok k =>
    rw [haccept] at hwrite
    have hn : min left.length k = n := Except.ok.inj hwrite
    rw [hwrites, haccepts c.writes left.length k (by omega) haccept]
    exact hwrite

theorem flush (h : c.IsMended better) (hflush : c.flush.1 = .ok ()) :
    better.flush.1 = .ok () ∧ c.flush.2.IsMended better.flush.2 := by
  obtain ⟨harrivals, haccepts, hfailure, hwrites, hflushes⟩ := h
  refine ⟨?_, harrivals, haccepts, hfailure, hwrites, congrArg (· + 1) hflushes⟩
  simp only [Connection.flush] at hflush ⊢
  cases hcause : c.flushFailure c.flushes with
  | some cause => simp [hcause] at hflush
  | none => rw [hflushes, hfailure c.flushes hcause]

theorem signal (h : c.IsMended better) (v : Service) (earlier : List Call) {s : Session}
    (hsound : (s.signal v earlier c).1.failure? = none) :
    (s.signal v earlier better).1 = (s.signal v earlier c).1 ∧
      (s.signal v earlier c).2.IsMended (s.signal v earlier better).2 := by
  cases hp : s.phase with
  | opening => simpa only [Session.signal, hp, true_and] using h
  | reading =>
    simp only [Session.signal, hp] at hsound ⊢
    cases hread : (c.read v.dispatch.readBufferSize).1 with
    | error cause => simp [hread, Signal.failure?] at hsound
    | ok bytes =>
      obtain ⟨hsame, hmended⟩ := h.read hread
      rw [hsame]
      exact ⟨rfl, hmended⟩
  | calling r rest => simpa only [Session.signal, hp, true_and] using h
  | writing line left rest =>
    simp only [Session.signal, hp] at hsound ⊢
    cases hwrite : (c.write left).1 with
    | error cause => simp [hwrite, Signal.failure?] at hsound
    | ok n =>
      cases n with
      | zero => simp [hwrite, Signal.failure?] at hsound
      | succ n =>
        obtain ⟨hsame, hmended⟩ := h.write n.succ_pos hwrite
        rw [hsame]
        exact ⟨rfl, hmended⟩
  | flushing line rest =>
    simp only [Session.signal, hp] at hsound ⊢
    cases hflush : c.flush.1 with
    | error cause => simp [hflush, Signal.failure?] at hsound
    | ok u =>
      obtain ⟨hsame, hmended⟩ := h.flush hflush
      rw [hsame]
      exact ⟨rfl, hmended⟩
  | ended result => simpa only [Session.signal, hp, true_and] using h

end Connection.IsMended

structure Moment.IsMended (m better : Moment) : Prop where
  steps : better.steps = m.steps
  session : better.session = m.session
  connection : m.connection.IsMended better.connection

theorem taking_ne_ended (frames : List Frame) (result : Except SessionError Summary) :
    Phase.taking frames ≠ .ended result := by
  rcases taking_cases frames with hp | ⟨r, rest, hp⟩
  · rw [hp]
    exact nofun
  · rw [hp]
    exact nofun

namespace Moment

variable {v : Service} {m better : Moment}

theorem IsMended.next (h : m.IsMended better) (hsound : m.failure? v = none) :
    (m.next v).IsMended (better.next v) := by
  obtain ⟨hsteps, hsession, hconnection⟩ := h
  obtain ⟨hsignal, hmended⟩ := hconnection.signal v m.calls hsound
  have hcalls : better.calls = m.calls := congrArg (Session.callsAfter []) hsteps
  refine ⟨?_, ?_, ?_⟩
  · simp only [Moment.next, Session.step, hsession, hcalls, hsignal, hsteps]
  · simp only [Moment.next, Session.step, hsession, hcalls, hsignal]
  · simp only [Moment.next, Session.step, hsession, hcalls]
    exact hmended

theorem failure?_of_ended {result : Except SessionError Summary}
    (hp : m.session.phase = .ended result) : m.failure? v = none := by
  simp [failure?, Session.signal, hp, Signal.failure?]

theorem failure_cases (v : Service) (m : Moment) :
    (∃ cause trace left, m.failure? v = some cause ∧
      m.next v = ⟨m.steps ++ trace, left, m.session.fail cause⟩ ∧
        (trace = [] ∨ trace = [.write []])) ∨
      (m.failure? v = none ∧ ∀ cause, (m.next v).session.phase = .ended (.error (.io cause)) →
        m.session.phase = .ended (.error (.io cause))) := by
  obtain ⟨steps, left, s, hstep, hnext⟩ := m.exists_transition v
  rw [hnext]
  cases hstep with
  | opened hp =>
    right
    refine ⟨by simp [failure?, Session.signal, hp, Signal.failure?], ?_⟩
    intro cause hended
    cases hended
  | closed hp hread =>
    right
    refine ⟨by simp [failure?, Session.signal, hp, hread, Signal.failure?], ?_⟩
    intro cause hended
    cases hended
  | received hp hne hread =>
    right
    refine ⟨by simp [failure?, Session.signal, hp, hread, Signal.failure?], ?_⟩
    rw [Session.receive_phase]
    exact fun cause hended => absurd hended (taking_ne_ended _ _)
  | unread hp hread =>
    left
    exact ⟨_, _, _, by simp [failure?, Session.signal, hp, hread, Signal.failure?], rfl, .inl rfl⟩
  | answered hp hreply =>
    right
    refine ⟨by simp [failure?, Session.signal, hp, Signal.failure?], ?_⟩
    intro cause hended
    cases hended
  | refused hp hreply =>
    right
    refine ⟨by simp [failure?, Session.signal, hp, Signal.failure?], ?_⟩
    intro cause hended
    cases hended
  | @wrote line written rest n hp hwrite hpos hlt =>
    right
    obtain ⟨k, rfl⟩ := Nat.exists_eq_add_of_lt hpos
    refine ⟨by simp [failure?, Session.signal, hp, hwrite, Signal.failure?], ?_⟩
    intro cause hended
    cases hended
  | @wroteAll line written rest n hp hwrite hpos hle =>
    right
    obtain ⟨k, rfl⟩ := Nat.exists_eq_add_of_lt hpos
    refine ⟨by simp [failure?, Session.signal, hp, hwrite, Signal.failure?], ?_⟩
    intro cause hended
    cases hended
  | wroteNothing hp hwrite =>
    left
    exact ⟨_, _, _, by simp [failure?, Session.signal, hp, hwrite, Signal.failure?], rfl, .inr rfl⟩
  | unwritten hp hwrite =>
    left
    exact ⟨_, _, _, by simp [failure?, Session.signal, hp, hwrite, Signal.failure?], rfl, .inl rfl⟩
  | flushed hp hflush =>
    right
    refine ⟨by simp [failure?, Session.signal, hp, hflush, Signal.failure?], ?_⟩
    rw [Session.sent_phase]
    exact fun cause hended => absurd hended (taking_ne_ended _ _)
  | unflushed hp hflush =>
    left
    exact ⟨_, _, _, by simp [failure?, Session.signal, hp, hflush, Signal.failure?], rfl, .inl rfl⟩
  | ended hp =>
    right
    exact ⟨failure?_of_ended hp, fun cause hended => hended⟩

theorem next_of_failure {cause : String} (h : m.failure? v = some cause) :
    ∃ trace left, m.next v = ⟨m.steps ++ trace, left, m.session.fail cause⟩ ∧
      (trace = [] ∨ trace = [.write []]) := by
  rcases m.failure_cases v with ⟨other, trace, left, hother, hnext, htrace⟩ | ⟨hnone, -⟩
  · rw [h] at hother
    cases hother
    exact ⟨trace, left, hnext, htrace⟩
  · rw [h] at hnone
    cases hnone

theorem failure?_of_next_ended {cause : String}
    (hended : (m.next v).session.phase = .ended (.error (.io cause))) :
    m.session.phase = .ended (.error (.io cause)) ∨ m.failure? v = some cause := by
  rcases m.failure_cases v with ⟨other, trace, left, hother, hnext, -⟩ | ⟨-, hbefore⟩
  · rw [hnext] at hended
    cases hended
    exact .inr hother
  · exact .inl (hbefore cause hended)

end Moment

section

variable {v : Service} {peer : String} {c better : Connection} {n : ℕ} {cause : String}

theorem moment_succ_of_failure (h : (v.moment peer c n).failure? v = some cause) :
    ∃ trace, (v.moment peer c (n + 1)).steps = (v.moment peer c n).steps ++ trace ∧
      (trace = [] ∨ trace = [.write []]) ∧
      (v.moment peer c (n + 1)).session.phase = .ended (.error (.io cause)) := by
  obtain ⟨trace, left, hnext, htrace⟩ := Moment.next_of_failure h
  rw [v.moment_succ, hnext]
  exact ⟨trace, rfl, htrace, rfl⟩

theorem failure?_before (h : (v.moment peer c n).failure? v = some cause) {k : ℕ} (hk : k < n) :
    (v.moment peer c k).failure? v = none := by
  cases hfailure : (v.moment peer c k).failure? v with
  | none => rfl
  | some other =>
    -- The session would have ended there, and one that has ended comes to no failure.
    obtain ⟨trace, -, -, hended⟩ := moment_succ_of_failure hfailure
    obtain ⟨later, rfl⟩ := Nat.exists_eq_add_of_le hk
    rw [v.moment_ended_add peer c hended later, Moment.failure?_of_ended hended] at h
    cases h

theorem isMended_moment (hbetter : c.IsMended better)
    (h : ∀ k < n, (v.moment peer c k).failure? v = none) :
    (v.moment peer c n).IsMended (v.moment peer better n) := by
  induction n with
  | zero => exact ⟨rfl, rfl, hbetter⟩
  | succ n ih =>
    have hmended := ih fun k hk => h k (Nat.lt_succ_of_lt hk)
    rw [v.moment_succ, v.moment_succ]
    exact hmended.next (h n n.lt_succ_self)

theorem exists_failure (hended : (v.moment peer c n).session.phase = .ended (.error (.io cause))) :
    ∃ k, (v.moment peer c k).failure? v = some cause := by
  induction n with
  | zero => cases hended
  | succ n ih =>
    rw [v.moment_succ] at hended
    rcases Moment.failure?_of_next_ended hended with h | h
    · exact ih h
    · exact ⟨n, h⟩

theorem serve_of_failure (h : (v.moment peer c n).failure? v = some cause) :
    (v.serve peer c).2 = .error (.io cause) ∧
      ((v.serve peer c).1 = (v.moment peer c n).steps ∨
        (v.serve peer c).1 = (v.moment peer c n).steps ++ [.write []]) := by
  obtain ⟨trace, hsteps, htrace, hended⟩ := moment_succ_of_failure h
  rw [Service.serve_of_ended hended, hsteps]
  refine ⟨rfl, ?_⟩
  rcases htrace with rfl | rfl
  · exact .inl (List.append_nil _)
  · exact .inr rfl

theorem moment_of_failure (h : (v.moment peer c n).failure? v = some cause) {k : ℕ} (hk : n < k) :
    v.moment peer c k = v.moment peer c (n + 1) := by
  obtain ⟨trace, -, -, hended⟩ := moment_succ_of_failure h
  obtain ⟨later, rfl⟩ := Nat.exists_eq_add_of_le hk
  exact v.moment_ended_add peer c hended later

theorem steps_of_isMended (h : (v.moment peer c n).failure? v = some cause)
    (hbetter : c.IsMended better) {k : ℕ} (hk : k ≤ n) :
    (v.moment peer better k).steps = (v.moment peer c k).steps := by
  have hmended : (v.moment peer c k).IsMended (v.moment peer better k) :=
    isMended_moment hbetter fun i hi => failure?_before h (Nat.lt_of_lt_of_le hi hk)
  exact hmended.steps

theorem written_of_io {calls : List Call} {steps : List Step}
    (h : (Phase.ended (.error (.io cause))).Chronicled v peer calls steps) :
    (v.lines calls.reverse).dropLast.flatten <+: written steps ∧
      written steps <+: (v.lines calls.reverse).flatten := by
  rcases h with h | ⟨line, left, h⟩
  · obtain ⟨last, hlast⟩ := List.dropLast_prefix (v.lines calls.reverse)
    have hlines : (v.lines calls.reverse).dropLast.flatten ++ last.flatten =
        (v.lines calls.reverse).flatten := by
      rw [← List.flatten_append, hlast]
    rw [h.written]
    exact ⟨⟨last.flatten, hlines⟩, List.prefix_refl _⟩
  · obtain ⟨hlines, hwritten⟩ := h.written
    exact ⟨hlines, ⟨left, hwritten⟩⟩

end

/-- A session whose connection fails ends there, and ends no other session. Up to there it has done
what it does on every connection that is better, it has called for the first of the requests that it
has read, and each of their lines is written whole but the last, of which the first bytes are. -/
theorem serve_broken (v : Service) (peer : String) (c : Connection) :
    let (steps, result) := v.serve peer c
    let calls := (Session.callsAfter [] steps).reverse
    (∀ cause, result = .error (.io cause) ↔
      ∃ n, (v.moment peer c n).failure? v = some cause) ∧
      ∀ n cause, (v.moment peer c n).failure? v = some cause →
        let before := (v.moment peer c n).steps
        (SessionError.io cause).isFatal = false ∧ (steps = before ∨ steps = before ++ [.write []]) ∧
          (∀ k, n < k → v.moment peer c k = v.moment peer c (n + 1)) ∧
          (∀ better, c.IsMended better → before <+: (v.serve peer better).1 ∧
            ∀ k ≤ n, (v.moment peer better k).steps = (v.moment peer c k).steps) ∧
          calls <+: v.dispatch.callsFor (c.stream.take (readSize steps)) ∧
          (v.lines calls).dropLast.flatten <+: written steps ∧
          written steps <+: (v.lines calls).flatten := by
  constructor
  · intro cause
    constructor
    · intro hresult
      obtain ⟨n, -, hended⟩ := v.exists_moment_serve peer c
      have hfailed : (v.serve peer c).2 = .error (.io cause) := hresult
      rw [hfailed] at hended
      exact exists_failure hended
    · rintro ⟨n, hfailure⟩
      exact (serve_of_failure hfailure).1
  · intro n cause hfailure
    obtain ⟨hresult, hsteps⟩ := serve_of_failure hfailure
    have hrun := chronicled_serve v peer c
    simp only [hresult] at hrun
    refine ⟨rfl, hsteps, fun k hk => moment_of_failure hfailure hk, ?_,
      calls_prefix_serve v peer c, written_of_io hrun⟩
    intro better hbetter
    refine ⟨?_, fun k hk => steps_of_isMended hfailure hbetter hk⟩
    rw [← steps_of_isMended hfailure hbetter n.le_refl]
    exact v.moment_prefix_serve peer better n

def echoing : Service where
  backend :=
    { kind := .remote
      description := "echoing"
      answer := fun _ call => { outcome := .ok (.text call.query) } }
  dispatch := {}

def narrow : Connection where
  arrivals := [.bytes (Utf8.encode "AI_REQ: ab\nAI_REQ: cd\n".toList)]
  accepts := fun _ _ => .ok 2

def torn : Connection :=
  { narrow with accepts := fun i _ => if i = 3 then .error "broken pipe" else .ok 2 }

theorem serve_torn :
    let (steps, result) := echoing.serve "peer" torn
    result = .error (.io "broken pipe") ∧ steps <+: (echoing.serve "peer" narrow).1 ∧
      written steps = Utf8.encode "ab\ncd".toList ∧
      written steps <+: Utf8.encode "ab\ncd\n".toList := by
  have hfailure : (echoing.moment "peer" torn 8).failure? echoing = some "broken pipe" := rfl
  have hmended : torn.IsMended narrow := by
    refine ⟨.bytes _ .nil, ?_, fun i h => h, rfl, rfl⟩
    intro i n k hpos haccepts
    simp only [torn] at haccepts
    split_ifs at haccepts
    exact haccepts
  have hrun : echoing.serve "peer" torn = ((echoing.moment "peer" torn 9).steps, _) :=
    Service.serve_of_ended rfl
  have hsteps : (echoing.serve "peer" torn).1 = (echoing.moment "peer" torn 8).steps := by
    rw [hrun]
    rfl
  have hcalls : (Session.callsAfter [] (echoing.serve "peer" torn).1).reverse =
      [echoing.dispatch.call ⟨"ab"⟩, echoing.dispatch.call ⟨"cd"⟩] := by
    rw [hrun]
    rfl
  have hlines : (echoing.lines [echoing.dispatch.call ⟨"ab"⟩,
      echoing.dispatch.call ⟨"cd"⟩]).flatten = Utf8.encode "ab\ncd\n".toList := by
    decide +kernel
  have hwritten : written (echoing.serve "peer" torn).1 = Utf8.encode "ab\ncd".toList := by
    rw [hrun]
    decide +kernel
  obtain ⟨hends, hbroken⟩ := serve_broken echoing "peer" torn
  obtain ⟨-, -, -, hbetter, -, -, hlast⟩ := hbroken 8 "broken pipe" hfailure
  obtain ⟨hbefore, -⟩ := hbetter narrow hmended
  have hprefix : written (echoing.serve "peer" torn).1 <+: (echoing.lines
      (Session.callsAfter [] (echoing.serve "peer" torn).1).reverse).flatten := hlast
  rw [hcalls, hlines] at hprefix
  rw [← hsteps] at hbefore
  exact ⟨(hends _).mpr ⟨8, hfailure⟩, hbefore, hwritten, hprefix⟩

end PromptRelay
