import PromptRelay.Session.Run

namespace PromptRelay

inductive ListenError where
  | unresolved (address : String)
  | unbound (address cause : String)
  | fatal (e : SessionError)
  deriving DecidableEq, Repr

namespace ListenError

def message : ListenError → String
  | unresolved address => "Could not resolve listen address " ++ address
  | unbound address cause => "Failed to bind " ++ address ++ ": " ++ cause
  | fatal e => "Session fault: " ++ e.message

def causes : ListenError → List String
  | unresolved _ => []
  | unbound _ cause => [cause]
  | fatal (.io cause) => [(SessionError.io cause).message, cause]
  | fatal (.backend fault) => [(SessionError.backend fault).message, fault.message]

end ListenError

def addressText (host : String) (port : Nat) : String :=
  host ++ ":" ++ toString port

structure Client where
  peer : String
  connection : Connection
  session : Session
  steps : List Step := []

namespace Client

def arrive (peer : String) (c : Connection) : Client where
  peer := peer
  connection := c
  session := { peer := peer }

def result? (k : Client) : Option (Except SessionError Summary) :=
  k.session.result?

def isWaiting (k : Client) : Bool :=
  match k.session.phase with
  | .reading => k.connection.isSilent
  | _ => false

def proceed (v : Service) (calls : List Call) (k : Client) : Client × List Call :=
  let (steps, connection, session) := k.session.step v calls k.connection
  ({ k with connection := connection, session := session, steps := k.steps ++ steps },
   Session.callsAfter calls steps)

def fatalError? (k : Client) : Option SessionError :=
  match k.result? with
  | some (.error e) => if e.isFatal then some e else none
  | _ => none

def written (k : Client) : List UInt8 :=
  k.steps.flatMap fun
    | .write bytes => bytes
    | _ => []

end Client

end PromptRelay
