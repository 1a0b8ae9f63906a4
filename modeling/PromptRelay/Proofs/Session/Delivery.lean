import PromptRelay.Proofs.Session.Chronicle
import PromptRelay.Proofs.Session.Promptness
import PromptRelay.Proofs.Session.WireLines

namespace PromptRelay

def Service.lines (v : Service) (calls : List Call) : List (List UInt8) :=
  (v.wireTexts [] calls).map fun text => Utf8.encode text ++ [0x0A]

theorem Service.lines_concat {v : Service} {earlier : List Call} {call : Call} {reply : Reply}
    (h : v.reply earlier call = .ok reply) :
    v.lines (earlier.reverse ++ [call]) = v.lines earlier.reverse ++ [reply.line.bytes] := by
  have hline : reply.line.bytes = Utf8.encode (v.wireText earlier call) ++ [0x0A] := by
    rw [← Service.line_text h]
    rfl
  rw [lines, wireTexts_concat, List.reverse_reverse, List.append_nil, List.map_append, hline]
  rfl

section

variable {v : Service} {peer : String} {calls : List Call} {steps : List Step}

theorem written_replySteps (v : Service) (peer : String) (earlier : List Call) (call : Call)
    (reply : Reply) : written (v.replySteps peer earlier call reply) = [] :=
  rfl

theorem written_closingSteps (summary : Summary) (bytes : Option ℕ) (character : Bool) :
    written (closingSteps peer summary bytes character) = [] := by
  cases bytes <;> cases character <;> rfl

theorem Chronicle.written (h : Chronicle v peer calls steps) :
    PromptRelay.written steps = (v.lines calls.reverse).flatten := by
  induction h with
  | opened => rfl
  | read h hsize ih => rw [written_append_of_eq_nil rfl, ih]
  | echoed h text ih => rw [written_append_of_eq_nil rfl, ih]
  | discarded h ih => rw [written_append_of_eq_nil rfl, ih]
  | @replied earlier steps call reply writes h hreply hwrites ih =>
    rw [written_append, written_append, written_append, written_replySteps, written_writes, ih,
      hwrites, List.reverse_cons, Service.lines_concat hreply, List.flatten_concat]
    simp [PromptRelay.written]

theorem Replying.written {line : Line} {left : List UInt8}
    (h : Replying v peer line left calls steps) :
    (v.lines calls.reverse).dropLast.flatten <+: PromptRelay.written steps ∧
      PromptRelay.written steps ++ left = (v.lines calls.reverse).flatten := by
  obtain @⟨earlier, steps, call, reply, writes, h, hreply, hline, hwrites⟩ := h
  rw [written_append, written_append, written_replySteps, written_writes, h.written,
    List.reverse_cons, Service.lines_concat hreply, List.dropLast_concat, List.flatten_concat,
    hline, ← hwrites, List.nil_append]
  exact ⟨List.prefix_append _ _, List.append_assoc _ _ _⟩

theorem Chronicle.exists_reply (h : Chronicle v peer calls steps) {later earlier : List Call}
    {call : Call} (hcalls : calls = later ++ call :: earlier) :
    ∃ reply, v.reply earlier call = .ok reply := by
  induction h generalizing later with
  | opened => simp at hcalls
  | read h hsize ih => exact ih hcalls
  | echoed h text ih => exact ih hcalls
  | discarded h ih => exact ih hcalls
  | replied h hreply hwrites ih =>
    cases later with
    | nil =>
      obtain ⟨rfl, rfl⟩ := List.cons.inj hcalls
      exact ⟨_, hreply⟩
    | cons last later => exact ih (List.cons.inj hcalls).2

theorem Replying.exists_reply {line : Line} {left : List UInt8}
    (h : Replying v peer line left calls steps) {later earlier : List Call} {call : Call}
    (hcalls : calls = later ++ call :: earlier) : ∃ reply, v.reply earlier call = .ok reply := by
  obtain ⟨h, hreply, hline, hwrites⟩ := h
  cases later with
  | nil =>
    obtain ⟨rfl, rfl⟩ := List.cons.inj hcalls
    exact ⟨_, hreply⟩
  | cons last later => exact h.exists_reply (List.cons.inj hcalls).2

theorem faulted_of_chronicled {result : Except SessionError Summary}
    (h : (Phase.ended result).Chronicled v peer calls steps) {later earlier : List Call}
    {call : Call} {fault : Fault} (hcalls : calls = later ++ call :: earlier)
    (hreply : v.reply earlier call = .error fault) :
    result = .error (.backend fault) ∧ later = [] ∧ Faulted v peer fault calls steps := by
  -- All calls but the last have replies, so the one without a reply is the last.
  have hrefused (reply : Reply) : v.reply earlier call ≠ .ok reply := by
    rw [hreply]
    exact nofun
  match result, h with
  | .ok summary, ⟨before, bytes, character, hbefore, hsteps⟩ =>
    obtain ⟨reply, h⟩ := hbefore.exists_reply hcalls
    exact absurd h (hrefused reply)
  | .error (.io cause), h =>
    have hreplied : ∃ reply, v.reply earlier call = .ok reply := by
      rcases h with h | ⟨line, left, h⟩
      · exact h.exists_reply hcalls
      · exact h.exists_reply hcalls
    obtain ⟨reply, h⟩ := hreplied
    exact absurd h (hrefused reply)
  | .error (.backend other), h =>
    have hfaulted : Faulted v peer other calls steps := h
    obtain @⟨before, steps, last, hbefore, hlast⟩ := h
    cases later with
    | nil =>
      obtain ⟨rfl, rfl⟩ := List.cons.inj hcalls
      obtain rfl : other = fault := Except.error.inj (hlast.symm.trans hreply)
      exact ⟨rfl, rfl, hfaulted⟩
    | cons second later =>
      obtain ⟨reply, h⟩ := hbefore.exists_reply (List.cons.inj hcalls).2
      exact absurd h (hrefused reply)

end

section

variable (v : Service) (peer : String) (c : Connection)

theorem calls_prefix_serve :
    (Session.callsAfter [] (v.serve peer c).1).reverse <+:
      v.dispatch.callsFor (c.stream.take (readSize (v.serve peer c).1)) := by
  obtain ⟨n, hsteps, hended⟩ := v.exists_moment_serve peer c
  obtain ⟨bytes, haccounts⟩ := accounts_moment v peer c n
  rw [← hsteps, haccounts.take_readSize]
  exact haccounts.owes.made_prefix

theorem calls_of_ok (hsize : 0 < v.dispatch.readBufferSize) {summary : Summary}
    (h : (v.serve peer c).2 = .ok summary) :
    (Session.callsAfter [] (v.serve peer c).1).reverse = v.dispatch.callsFor c.stream := by
  obtain ⟨n, hsteps, hended⟩ := v.exists_moment_serve peer c
  obtain ⟨bytes, haccounts⟩ := accounts_moment v peer c n
  rw [h] at hended
  obtain ⟨hleaves, howes, -⟩ := haccounts.inPhase hended
  rw [← hsteps, (hleaves hsize).1, ← howes]
  exact (List.append_nil _).symm

theorem written_of_ok {summary : Summary} (h : (v.serve peer c).2 = .ok summary) :
    written (v.serve peer c).1 =
      (v.lines (Session.callsAfter [] (v.serve peer c).1).reverse).flatten := by
  have hrun := chronicled_serve v peer c
  simp only [h] at hrun
  obtain ⟨before, bytes, character, hbefore, hsteps⟩ := hrun
  rw [← hbefore.written, hsteps, written_append_of_eq_nil (written_closingSteps _ _ _)]

end

end PromptRelay
