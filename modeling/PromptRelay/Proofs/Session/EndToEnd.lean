import PromptRelay.Proofs.Session.Promptness
import PromptRelay.Proofs.Session.WireLines

namespace PromptRelay

structure Connection.IsReliable (c : Connection) : Prop where
  failure : c.failure? = none
  accepts : ∀ i n, 0 < n → ∃ k, 0 < k ∧ c.accepts i n = .ok k
  flushes : ∀ i, c.flushFailure i = none

def Service.GoesOn (v : Service) : Prop :=
  v.backend.kind.policy = .failFast → ∀ earlier call fault, (v.ask earlier call).1 ≠ .error fault

theorem Session.replyOf_eq_error {kind : BackendKind} {outcome : Outcome} {fault : Fault}
    (h : replyOf kind outcome = .error fault) :
    kind.policy = .failFast ∧ outcome = .error fault := by
  unfold replyOf at h
  split at h
  · cases h
  · split at h
    · rename_i hpolicy
      obtain rfl := Except.error.inj h
      exact ⟨hpolicy, rfl⟩
    · cases h

theorem Service.GoesOn.reply_ne {v : Service} (h : v.GoesOn) (earlier : List Call) (call : Call)
    (fault : Fault) : v.reply earlier call ≠ .error fault := by
  intro hreply
  obtain ⟨hpolicy, hask⟩ := Session.replyOf_eq_error hreply
  exact h hpolicy earlier call fault hask

def Phase.IsSound : Phase → Prop
  | .writing _ left _ => left ≠ []
  | .ended (.error _) => False
  | _ => True

structure Unbroken (c : Connection) (m : Moment) : Prop where
  accepts : m.connection.accepts = c.accepts
  flushes : m.connection.flushFailure = c.flushFailure
  phase : m.session.phase.IsSound

theorem sound_taking (frames : List Frame) : (Phase.taking frames).IsSound := by
  rcases taking_cases frames with hp | ⟨r, rest, hp⟩
  · rw [hp]; trivial
  · rw [hp]; trivial

theorem write_ok {c : Connection} {left : List UInt8} (hleft : left ≠ [])
    (haccepts : ∀ i n, 0 < n → ∃ k, 0 < k ∧ c.accepts i n = .ok k) :
    ∃ n, 0 < n ∧ (c.write left).1 = .ok n := by
  have hpos := List.length_pos_iff.mpr hleft
  obtain ⟨k, hk, haccept⟩ := haccepts c.writes left.length hpos
  refine ⟨min left.length k, by omega, ?_⟩
  rw [Connection.write, haccept]
  rfl

theorem flush_ok {c : Connection} (h : ∀ i, c.flushFailure i = none) : c.flush.1 = .ok () := by
  rw [Connection.flush, h c.flushes]

section

variable {v : Service} {c : Connection} {m : Moment}

theorem Unbroken.write (h : Unbroken c m) (hc : c.IsReliable) {line : Line} {left : List UInt8}
    {rest : List Frame} (hp : m.session.phase = .writing line left rest) :
    ∃ n, 0 < n ∧ (m.connection.write left).1 = .ok n := by
  have hphase := h.phase
  rw [hp] at hphase
  apply write_ok hphase
  rw [h.accepts]
  exact hc.accepts

theorem Unbroken.next {bytes : List UInt8} (h : Unbroken c m) (hservice : v.GoesOn)
    (hc : c.IsReliable) (haccounts : Accounts v c bytes m) : Unbroken c (m.next v) := by
  have hread := m.connection.read_frame v.dispatch.readBufferSize
  obtain ⟨steps, left, s, hstep, hnext⟩ := m.exists_transition v
  rw [hnext]
  cases hstep with
  | opened hp => exact ⟨h.accepts, h.flushes, trivial⟩
  | closed hp hend => exact ⟨hread.1.trans h.accepts, hread.2.trans h.flushes, trivial⟩
  | received hp hne hbytes =>
    refine ⟨hread.1.trans h.accepts, hread.2.trans h.flushes, ?_⟩
    rw [Session.receive_phase]
    exact sound_taking _
  | unread hp herror =>
    obtain ⟨⟨-, hfailure⟩, -, -⟩ := haccounts.inPhase hp
    rw [hc.failure, (Connection.stream_of_read_error herror).2] at hfailure
    cases hfailure
  | answered hp hreply => exact ⟨h.accepts, h.flushes, by simp [Phase.IsSound, Line.bytes]⟩
  | refused hp hreply => exact absurd hreply (hservice.reply_ne _ _ _)
  | wrote hp hwrite hpos hlt => exact ⟨h.accepts, h.flushes, by simpa [Phase.IsSound] using hlt⟩
  | wroteAll hp hwrite hpos hle => exact ⟨h.accepts, h.flushes, trivial⟩
  | wroteNothing hp hwrite =>
    obtain ⟨n, hpos, hn⟩ := h.write hc hp
    rw [hn] at hwrite
    have hzero := Except.ok.inj hwrite
    omega
  | unwritten hp hwrite =>
    obtain ⟨n, hpos, hn⟩ := h.write hc hp
    rw [hn] at hwrite
    cases hwrite
  | flushed hp hflush =>
    refine ⟨h.accepts, h.flushes, ?_⟩
    rw [Session.sent_phase]
    exact sound_taking _
  | unflushed hp hflush =>
    rw [flush_ok (by rw [h.flushes]; exact hc.flushes)] at hflush
    cases hflush
  | ended hp => exact ⟨h.accepts, h.flushes, h.phase⟩

end

theorem unbroken_moment {v : Service} {c : Connection} (hservice : v.GoesOn) (hc : c.IsReliable)
    (peer : String) (n : ℕ) : Unbroken c (v.moment peer c n) := by
  induction n with
  | zero => exact ⟨rfl, rfl, trivial⟩
  | succ n ih =>
    obtain ⟨bytes, haccounts⟩ := accounts_moment v peer c n
    rw [v.moment_succ]
    exact ih.next hservice hc haccounts

theorem serve_reliable {v : Service} {c : Connection} (peer : String)
    (hsize : 0 < v.dispatch.readBufferSize) (hservice : v.GoesOn) (hc : c.IsReliable) :
    let calls := v.dispatch.callsFor c.stream
    let (steps, result) := v.serve peer c
    (∃ summary, result = .ok summary) ∧ (Session.callsAfter [] steps).reverse = calls ∧
      (written steps).splitOn 0x0A = (v.wireTexts [] calls).map Utf8.encode ++ [[]] := by
  obtain ⟨n, hsteps, hended⟩ := v.exists_moment_serve peer c
  obtain ⟨bytes, haccounts⟩ := accounts_moment v peer c n
  have hsound := (unbroken_moment hservice hc peer n).phase
  obtain ⟨hleaves, howes, hstands⟩ := haccounts.inPhase hended
  rw [hended] at hsound
  generalize v.serve peer c = run at hsteps hended hsound hleaves howes hstands ⊢
  obtain ⟨steps, result⟩ := run
  subst hsteps
  cases result with
  | error e => exact hsound.elim
  | ok summary =>
    have hcalls : (v.moment peer c n).calls.reverse = v.dispatch.callsFor c.stream := by
      rw [(hleaves hsize).1, ← howes]
      exact (List.append_nil _).symm
    refine ⟨⟨summary, rfl⟩, hcalls, ?_⟩
    have hwritten := hstands.written
    rw [written_exchangeOf, hcalls] at hwritten
    rw [hwritten]
    exact splitOn_lines (v.newline_not_mem_wireTexts _ _)

def faltering : Service where
  backend :=
    { kind := .remote
      description := "faltering"
      answer := fun earlier _ =>
        { outcome := if earlier.isEmpty then .ok (.text "4\r\n") else .error (.model "gone") } }
  dispatch := { readBufferSize := 5 }

def cutRequests : Connection where
  arrivals :=
    [.bytes (Utf8.encode "boot AI_RE".toList),
      .bytes (Utf8.encode "Q: 2+2?\nAI_REQ:b\nAI_REQ: c".toList)]

theorem serve_cutRequests :
    let (steps, result) := faltering.serve "peer" cutRequests
    (∃ summary, result = .ok summary) ∧
      (Session.callsAfter [] steps).reverse =
        [⟨"2+2?", faltering.dispatch.systemPrompt, {}⟩,
          ⟨"b", faltering.dispatch.systemPrompt, {}⟩] ∧
      (written steps).splitOn 0x0A =
        [Utf8.encode "4".toList, Utf8.encode "ERROR: Model failure: gone".toList, []] := by
  have hpolicy : faltering.GoesOn := nofun
  have hreliable : cutRequests.IsReliable := ⟨rfl, fun i n hn => ⟨n, hn, rfl⟩, fun i => rfl⟩
  have hsize : 0 < faltering.dispatch.readBufferSize := by decide
  obtain ⟨hend, hmade, hlines⟩ := serve_reliable "peer" hsize hpolicy hreliable
  have hcalls : faltering.dispatch.callsFor cutRequests.stream =
      [⟨"2+2?", faltering.dispatch.systemPrompt, {}⟩,
        ⟨"b", faltering.dispatch.systemPrompt, {}⟩] := by
    have htext := congrArg Prod.fst (Utf8.Decoder.feed_empty cutRequests.stream)
    simp only at htext
    rw [Dispatch.callsFor, ← htext]
    rfl
  have htexts : faltering.wireTexts []
      [⟨"2+2?", faltering.dispatch.systemPrompt, {}⟩,
        ⟨"b", faltering.dispatch.systemPrompt, {}⟩] =
      ["4".toList, "ERROR: Model failure: gone".toList] := by
    decide +kernel
  rw [hcalls] at hmade hlines
  rw [htexts] at hlines
  exact ⟨hend, hmade, hlines⟩

end PromptRelay
