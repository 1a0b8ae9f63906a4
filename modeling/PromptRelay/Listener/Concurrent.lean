import PromptRelay.Listener

/-!
A listener that serves clients side by side, each in a task of its own. A task whose session ended
with a fatal error sends the error through a channel with one slot, and waits while the slot is
taken; the first error that the listener receives stops it.
-/

namespace PromptRelay

inductive Concurrent.Task.Phase where
  | serving
  | sending (e : SessionError)
  | over
  | joined
  | aborted
  deriving DecidableEq, Repr

structure Concurrent.Task where
  client : Client
  phase : Concurrent.Task.Phase := .serving

namespace Concurrent.Task

def abort (t : Task) : Task :=
  match t.phase with
  | .serving => { t with phase := .aborted }
  | .sending _ => { t with phase := .aborted }
  | _ => t

def follow (k : Client) : Task where
  client := k
  phase := match k.result?, k.fatalError? with
    | none, _ => .serving
    | some _, some e => .sending e
    | some _, none => .over

end Concurrent.Task

inductive Concurrent.Phase where
  | accepting
  | pausing
  | stopped (result : Except ListenError Unit)

structure Concurrent where
  phase : Concurrent.Phase := .accepting
  tasks : List Concurrent.Task := []
  slot : Option SessionError := none
  calls : List Call := []
  isAsked : Bool := false

namespace Concurrent

inductive Occurrence where
  | accepted (peer : String) (c : Connection)
  | notAccepted (cause : String)
  | pauseEnded
  | proceeded (i : Nat)
  | sent (i : Nat)
  | joined (i : Nat)
  | received
  | asked
  | heeded

def stop (s : Concurrent) (result : Except ListenError Unit) : Concurrent :=
  { s with phase := .stopped result, tasks := s.tasks.map Task.abort }

def taskStep (v : Service) (s : Concurrent) (i : Nat) (t : Task) : Occurrence → Option Concurrent
  | .proceeded _ =>
    if t.phase = .serving then
      let (k, calls) := t.client.proceed v s.calls
      some { s with tasks := s.tasks.set i (.follow k), calls := calls }
    else none
  | .sent _ =>
    match t.phase, s.slot with
    | .sending e, none =>
      some { s with tasks := s.tasks.set i { t with phase := .over }, slot := some e }
    | _, _ => none
  | _ => none

def ownStep (s : Concurrent) (o : Occurrence) : Option Concurrent :=
  match s.phase, o with
  | .accepting, .accepted peer c =>
    some { s with tasks := s.tasks ++ [{ client := .arrive peer c }] }
  | .accepting, .notAccepted _ => some { s with phase := .pausing }
  | .pausing, .pauseEnded => some { s with phase := .accepting }
  | .accepting, .received =>
    s.slot.map fun e => { s with slot := none }.stop (.error (.fatal e))
  | .accepting, .joined i =>
    match s.tasks[i]? with
    | some t =>
      if t.phase = .over then some { s with tasks := s.tasks.set i { t with phase := .joined } }
      else none
    | none => none
  | .accepting, .heeded => if s.isAsked then some (s.stop (.ok ())) else none
  | _, .asked => some { s with isAsked := true }
  | _, _ => none

def Occurrence.task? : Occurrence → Option Nat
  | proceeded i => some i
  | sent i => some i
  | _ => none

def step (v : Service) (s : Concurrent) (o : Occurrence) : Option Concurrent :=
  match o.task? with
  | none => s.ownStep o
  | some i => s.tasks[i]?.bind fun t => s.taskStep v i t o

def run (v : Service) (s : Concurrent) (occurrences : List Occurrence) : Option Concurrent :=
  occurrences.foldlM (step v) s

def clients (s : Concurrent) : List Client :=
  s.tasks.map Task.client

def result? (s : Concurrent) : Option (Except ListenError Unit) :=
  match s.phase with
  | .stopped result => some result
  | _ => none

def taskNext? (s : Concurrent) (i : Nat) (t : Task) : Option Occurrence :=
  match t.phase with
  | .serving => if t.client.isWaiting then none else some (.proceeded i)
  | .sending _ => if s.slot.isNone then some (.sent i) else none
  | .over => some (.joined i)
  | _ => none

def next? (waiting : List (String × Connection)) (s : Concurrent) : Option Occurrence :=
  match s.phase with
  | .stopped _ => none
  | .pausing => some .pauseEnded
  | .accepting =>
    if s.isAsked then some .heeded
    else if s.slot.isSome then some .received
    else
      match waiting with
      | (peer, c) :: _ => some (.accepted peer c)
      | [] => (s.tasks.zipIdx).findSome? fun (t, i) => s.taskNext? i t

def update (s : Concurrent) (i : Nat) (f : Connection → Connection) : Concurrent :=
  { s with
    tasks := s.tasks.modify i fun t =>
      { t with client := { t.client with connection := f t.client.connection } } }

end Concurrent

end PromptRelay
