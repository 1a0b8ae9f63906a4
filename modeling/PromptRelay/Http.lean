import PromptRelay.Http.Url

namespace PromptRelay.Http

structure Request where
  url : Url
  /-- What the address says of its user goes into a header of its own. -/
  userAuthorization : Option String := none
  authorization : String
  contentType : String := "application/json"
  userAgent : String := "kernel-bridge/0.1.0"
  accept : String := "*/*"
  body : String
  deriving DecidableEq, Repr

def Request.authorizations (r : Request) : List String :=
  r.userAuthorization.toList ++ [r.authorization]

structure Response where
  status : Nat
  contentType : Option String := some "application/json"
  body : List UInt8
  deriving DecidableEq, Repr

inductive TransportError where
  | unbuildable
  | badScheme (url : String)
  | unreachable (url : String)
  | brokenOff (url : String)
  | cutShort
  | late
  deriving DecidableEq, Repr

def TransportError.message : TransportError → String
  | unbuildable => "network error: builder error"
  | badScheme url => "network error: builder error for url (" ++ url ++ ")"
  | unreachable url => "connection failed: error sending request for url (" ++ url ++ ")"
  | brokenOff url => "network error: error sending request for url (" ++ url ++ ")"
  | cutShort => "network error: error decoding response body"
  | late => "request timed out"

abbrev Exchange := Request → Nat × Except TransportError Response

end PromptRelay.Http
