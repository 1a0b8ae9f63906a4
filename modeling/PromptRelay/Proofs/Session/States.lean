import PromptRelay.Proofs.Session.Chronicle

namespace PromptRelay

def SessionState.next? : SessionState → Step → Option SessionState
  | state, .event _ => some state
  | .accumulating, .read _ => some .accumulating
  | .accumulating, .echo _ => some .accumulating
  | .accumulating, .state .accumulating .dispatching => some .dispatching
  | .accumulating, .state .accumulating .closed => some .closed
  | .dispatching, .preview _ => some .dispatching
  | .dispatching, .call _ => some .dispatching
  | .dispatching, .write _ => some .dispatching
  | .dispatching, .flush => some .dispatching
  | .dispatching, .state .dispatching .accumulating => some .accumulating
  | .closed, .droppedBytes _ => some .closed
  | .closed, .droppedCharacter => some .closed
  | _, _ => none

def SessionState.after? (state : SessionState) (steps : List Step) : Option SessionState :=
  steps.foldlM SessionState.next? state

def Phase.states : Phase → List SessionState
  | .opening => [.accumulating]
  | .reading => [.accumulating]
  | .calling _ _ => [.dispatching]
  | .writing _ _ _ => [.dispatching]
  | .flushing _ _ => [.dispatching]
  | .ended (.ok _) => [.closed]
  | .ended (.error (.io _)) => [.accumulating, .dispatching]
  | .ended (.error (.backend _)) => [.dispatching]

def Step.isClosing : Step → Bool
  | .read 0 => true
  | .state _ .closed => true
  | _ => false

def Step.isAfterword : Step → Bool
  | .event _ => true
  | .droppedBytes _ => true
  | .droppedCharacter => true
  | _ => false

/-- A session closes right after a read of nothing, as the last thing that it does, and ends well if
and only if it closes. -/
def ClosesAt (steps : List Step) : Except SessionError Summary → Prop
  | .ok _ => ∃ before after,
      steps = before ++ .read 0 :: .state .accumulating .closed :: after ∧
        (∀ step ∈ before, step.isClosing = false) ∧ ∀ step ∈ after, step.isAfterword
  | .error _ => ∀ step ∈ steps, step.isClosing = false

theorem after?_append {state next : SessionState} {xs : List Step} (ys : List Step)
    (h : state.after? xs = some next) : state.after? (xs ++ ys) = next.after? ys := by
  unfold SessionState.after? at *
  rw [List.foldlM_append, h]
  rfl

theorem after?_writes (writes : List (List UInt8)) :
    SessionState.dispatching.after? (writes.map .write) = some .dispatching := by
  induction writes with
  | nil => rfl
  | cons bs writes ih => exact ih

section

variable {v : Service} {peer : String} {calls : List Call} {steps : List Step}

theorem Chronicle.after? (h : Chronicle v peer calls steps) :
    SessionState.accumulating.after? steps = some .accumulating := by
  induction h with
  | opened => rfl
  | read h hsize ih => rw [after?_append _ ih]; rfl
  | echoed h text ih => rw [after?_append _ ih]; rfl
  | discarded h ih => rw [after?_append _ ih]; rfl
  | @replied earlier steps call reply writes h hreply hwrites ih =>
    have hreplySteps : SessionState.accumulating.after? (v.replySteps peer earlier call reply) =
        some .dispatching := rfl
    rw [after?_append _ ih, after?_append _ hreplySteps, after?_append _ (after?_writes writes)]
    rfl

theorem Replying.after? {line : Line} {left : List UInt8}
    (h : Replying v peer line left calls steps) :
    SessionState.accumulating.after? steps = some .dispatching := by
  obtain @⟨earlier, steps, call, reply, writes, h, hreply, hline, hwrites⟩ := h
  have hreplySteps : SessionState.accumulating.after? (v.replySteps peer earlier call reply) =
      some .dispatching := rfl
  rw [after?_append _ h.after?, after?_append _ hreplySteps, after?_writes]

theorem Faulted.after? {fault : Fault} (h : Faulted v peer fault calls steps) :
    SessionState.accumulating.after? steps = some .dispatching := by
  obtain ⟨h, hreply⟩ := h
  rw [after?_append _ h.after?]
  rfl

theorem after?_closingSteps (summary : Summary) (bytes : Option ℕ) (character : Bool) :
    SessionState.accumulating.after? (closingSteps peer summary bytes character) =
      some .closed := by
  cases bytes <;> cases character <;> rfl

theorem Phase.Chronicled.after? {p : Phase} (h : p.Chronicled v peer calls steps) :
    ∃ state ∈ p.states, SessionState.accumulating.after? steps = some state := by
  match p, h with
  | .opening, ⟨_, hsteps⟩ =>
    subst hsteps
    exact ⟨_, List.mem_singleton_self _, rfl⟩
  | .reading, h => exact ⟨_, List.mem_singleton_self _, Chronicle.after? h⟩
  | .calling r rest, ⟨before, hbefore, hsteps⟩ =>
    refine ⟨_, List.mem_singleton_self _, ?_⟩
    rw [hsteps, after?_append _ hbefore.after?]
    rfl
  | .writing line left rest, h => exact ⟨_, List.mem_singleton_self _, Replying.after? h⟩
  | .flushing line rest, h => exact ⟨_, List.mem_singleton_self _, Replying.after? h⟩
  | .ended (.ok summary), ⟨before, bytes, character, hbefore, hsteps⟩ =>
    refine ⟨_, List.mem_singleton_self _, ?_⟩
    rw [hsteps, after?_append _ hbefore.after?, after?_closingSteps]
  | .ended (.error (.io cause)), .inl h =>
    exact ⟨_, List.mem_cons_self, h.after?⟩
  | .ended (.error (.io cause)), .inr ⟨line, left, h⟩ =>
    exact ⟨_, List.mem_cons_of_mem _ (List.mem_singleton_self _), h.after?⟩
  | .ended (.error (.backend fault)), h => exact ⟨_, List.mem_singleton_self _, Faulted.after? h⟩

theorem isClosing_replySteps (v : Service) (peer : String) (earlier : List Call) (call : Call)
    (reply : Reply) : ∀ step ∈ v.replySteps peer earlier call reply, step.isClosing = false := by
  simp [Service.replySteps, takeUp, Step.isClosing]

theorem isClosing_writes (writes : List (List UInt8)) :
    ∀ step ∈ writes.map Step.write, step.isClosing = false := by
  simp [Step.isClosing]

theorem Chronicle.isClosing (h : Chronicle v peer calls steps) :
    ∀ step ∈ steps, step.isClosing = false := by
  induction h with
  | opened => simp [Step.isClosing]
  | @read calls steps size h hsize ih =>
    rw [List.forall_mem_append]
    refine ⟨ih, ?_⟩
    rw [List.forall_mem_singleton]
    cases size with
    | zero => cases hsize
    | succ size => rfl
  | echoed h text ih => exact List.forall_mem_append.mpr ⟨ih, by simp [Step.isClosing]⟩
  | discarded h ih => exact List.forall_mem_append.mpr ⟨ih, by simp [Step.isClosing]⟩
  | @replied earlier steps call reply writes h hreply hwrites ih =>
    simp only [List.forall_mem_append]
    exact ⟨ih, isClosing_replySteps v peer earlier call reply, isClosing_writes writes,
      by simp [Step.isClosing]⟩

theorem Replying.isClosing {line : Line} {left : List UInt8}
    (h : Replying v peer line left calls steps) : ∀ step ∈ steps, step.isClosing = false := by
  obtain @⟨earlier, steps, call, reply, writes, h, hreply, hline, hwrites⟩ := h
  simp only [List.forall_mem_append]
  exact ⟨h.isClosing, isClosing_replySteps v peer earlier call reply, isClosing_writes writes⟩

theorem Faulted.isClosing {fault : Fault} (h : Faulted v peer fault calls steps) :
    ∀ step ∈ steps, step.isClosing = false := by
  obtain ⟨h, hreply⟩ := h
  exact List.forall_mem_append.mpr ⟨h.isClosing, by simp [takeUp, Step.isClosing]⟩

theorem closesAt_of_chronicled {result : Except SessionError Summary}
    (h : (Phase.ended result).Chronicled v peer calls steps) : ClosesAt steps result := by
  match result, h with
  | .ok summary, ⟨before, bytes, character, hbefore, hsteps⟩ =>
    refine ⟨before, bytes.toList.map .droppedBytes ++
      (if character then [.droppedCharacter] else []) ++ [.event (.sessionClosed peer summary)],
      ?_, hbefore.isClosing, ?_⟩
    · rw [hsteps, closingSteps, List.append_assoc, List.append_assoc]
      simp
    · cases bytes <;> cases character <;> simp [Step.isAfterword]
  | .error (.io cause), .inl h => exact h.isClosing
  | .error (.io cause), .inr ⟨line, left, h⟩ => exact h.isClosing
  | .error (.backend fault), h => exact Faulted.isClosing h

end

end PromptRelay
