namespace PromptRelay

inductive Arrival where
  | bytes (bs : List UInt8)
  | broken (cause : String)
  deriving DecidableEq, Repr

def Arrival.size : Arrival → Nat
  | bytes bs => bs.length + 1
  | broken _ => 1

structure Connection where
  arrivals : List Arrival
  isOpen : Bool := false
  /-- How many of the bytes offered the n-th write takes, or why it fails. -/
  accepts : Nat → Nat → Except String Nat := fun _ n => .ok n
  flushFailure : Nat → Option String := fun _ => none
  writes : Nat := 0
  flushes : Nat := 0

namespace Connection

def read (n : Nat) (c : Connection) : Except String (List UInt8) × Connection :=
  match c.arrivals with
  | [] => (.ok [], c)
  | .broken cause :: rest => (.error cause, { c with arrivals := rest })
  | .bytes bs :: rest =>
    let left := bs.drop n
    let rest := if left.isEmpty then rest else .bytes left :: rest
    (.ok (bs.take n), { c with arrivals := rest })

def write (bs : List UInt8) (c : Connection) : Except String Nat × Connection :=
  ((c.accepts c.writes bs.length).map (min bs.length), { c with writes := c.writes + 1 })

def flush (c : Connection) : Except String Unit × Connection :=
  let result := match c.flushFailure c.flushes with
    | some cause => .error cause
    | none => .ok ()
  (result, { c with flushes := c.flushes + 1 })

def isSilent (c : Connection) : Bool :=
  c.isOpen && c.arrivals.isEmpty

def deliver (c : Connection) (bytes : List UInt8) : Connection :=
  if bytes.isEmpty then c else { c with arrivals := c.arrivals ++ [.bytes bytes] }

def finish (c : Connection) : Connection :=
  { c with isOpen := false }

def ahead (c : Connection) : Nat :=
  (c.arrivals.map Arrival.size).foldr (· + ·) 0

theorem ahead_read (c : Connection) (n : Nat) {b : UInt8} {bs : List UInt8}
    (h : (c.read n).1 = .ok (b :: bs)) : (c.read n).2.ahead < c.ahead := by
  cases hc : c.arrivals with
  | nil => simp [read, hc] at h
  | cons a rest =>
    cases a with
    | broken cause => simp [read, hc] at h
    | bytes xs =>
      simp only [read, hc, Except.ok.injEq] at h
      have hlen := congrArg List.length h
      simp only [List.length_take, List.length_cons] at hlen
      by_cases he : (xs.drop n).isEmpty = true
      · simp [ahead, read, hc, he, Arrival.size]
      · simp [ahead, read, hc, he, Arrival.size]
        omega

end Connection

end PromptRelay
