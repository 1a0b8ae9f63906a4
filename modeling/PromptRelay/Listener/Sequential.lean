import PromptRelay.Listener

namespace PromptRelay

inductive Sequential.Phase where
  | accepting
  | pausing
  | serving (k : Client)
  | stopped (result : Except ListenError Unit)

structure Sequential where
  phase : Sequential.Phase := .accepting
  /-- Clients whose service is over, the latest first. -/
  served : List Client := []
  calls : List Call := []
  isAsked : Bool := false

namespace Sequential

inductive Occurrence where
  | accepted (peer : String) (c : Connection)
  | notAccepted (cause : String)
  | pauseEnded
  | proceeded
  | asked
  | heeded

def follow (s : Sequential) (k : Client) : Sequential :=
  match k.result? with
  | none => { s with phase := .serving k }
  | some _ =>
    { s with
      phase := match k.fatalError? with
        | some e => .stopped (.error (.fatal e))
        | none => .accepting
      served := k :: s.served }

def step (v : Service) (s : Sequential) (o : Occurrence) : Option Sequential :=
  match s.phase, o with
  | .accepting, .accepted peer c => some { s with phase := .serving (.arrive peer c) }
  | .accepting, .notAccepted _ => some { s with phase := .pausing }
  | .pausing, .pauseEnded => some { s with phase := .accepting }
  | .serving k, .proceeded =>
    let (k, calls) := k.proceed v s.calls
    some ({ s with calls := calls }.follow k)
  | .accepting, .heeded => if s.isAsked then some { s with phase := .stopped (.ok ()) } else none
  | .serving k, .heeded =>
    if s.isAsked then some { s with phase := .stopped (.ok ()), served := k :: s.served } else none
  | _, .asked => some { s with isAsked := true }
  | _, _ => none

def run (v : Service) (s : Sequential) (occurrences : List Occurrence) : Option Sequential :=
  occurrences.foldlM (step v) s

def clients (s : Sequential) : List Client :=
  s.served.reverse ++ match s.phase with
    | .serving k => [k]
    | _ => []

def result? (s : Sequential) : Option (Except ListenError Unit) :=
  match s.phase with
  | .stopped result => some result
  | _ => none

def next? (waiting : List (String × Connection)) (s : Sequential) : Option Occurrence :=
  match s.phase, waiting with
  | .stopped _, _ => none
  | .pausing, _ => some .pauseEnded
  | .accepting, [] => if s.isAsked then some .heeded else none
  | .accepting, (peer, c) :: _ => some (if s.isAsked then .heeded else .accepted peer c)
  | .serving k, _ =>
    if s.isAsked then some .heeded
    else if k.isWaiting then none
    else some .proceeded

def update (s : Sequential) (f : Connection → Connection) : Sequential :=
  match s.phase with
  | .serving k => { s with phase := .serving { k with connection := f k.connection } }
  | _ => s

end Sequential

end PromptRelay
