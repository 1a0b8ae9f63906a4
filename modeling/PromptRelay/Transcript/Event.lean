import PromptRelay.Json

namespace PromptRelay

structure Summary where
  answered : Nat := 0
  discarded : Nat := 0
  failures : Nat := 0
  bytesRead : Nat := 0
  unterminatedBytes : Nat := 0
  deriving DecidableEq, Repr

inductive Event where
  | sessionOpened (peer : String)
  | discarded (peer : String)
  | request (peer query : String)
  | reply (peer line : String) (elapsedMs : Nat)
  | failure (peer cause : String) (elapsedMs : Nat)
  | fault (peer cause : String)
  | sessionClosed (peer : String) (summary : Summary)
  deriving DecidableEq, Repr

namespace Event

def type : Event → String
  | sessionOpened _ => "session_opened"
  | discarded _ => "discarded"
  | request _ _ => "request"
  | reply _ _ _ => "reply"
  | failure _ _ _ => "failure"
  | fault _ _ => "fault"
  | sessionClosed _ _ => "session_closed"

def peer : Event → String
  | sessionOpened p => p
  | discarded p => p
  | request p _ => p
  | reply p _ _ => p
  | failure p _ _ => p
  | fault p _ => p
  | sessionClosed p _ => p

def details : Event → List (String × Json)
  | sessionOpened _ => []
  | discarded _ => []
  | request _ query => [("query", .string query)]
  | reply _ line elapsed => [("line", .string line), ("elapsed_ms", .nat elapsed)]
  | failure _ cause elapsed => [("cause", .string cause), ("elapsed_ms", .nat elapsed)]
  | fault _ cause => [("cause", .string cause)]
  | sessionClosed _ s =>
    [("answered", .nat s.answered), ("discarded", .nat s.discarded),
     ("failures", .nat s.failures), ("bytes_read", .nat s.bytesRead),
     ("unterminated_bytes", .nat s.unterminatedBytes)]

def members (e : Event) : List (String × Json) :=
  ("type", .string e.type) :: ("peer", .string e.peer) :: e.details

end Event

end PromptRelay
