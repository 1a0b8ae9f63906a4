import PromptRelay.Http

namespace PromptRelay.Http

namespace Request

def firstLine (r : Request) : String :=
  "POST " ++ r.url.target ++ " HTTP/1.1"

def headers (r : Request) : List (String × String) :=
  (r.authorizations.map fun value => ("authorization", value)) ++
    [("content-type", r.contentType), ("user-agent", r.userAgent), ("accept", r.accept),
     ("host", r.url.authority), ("connection", "close"),
     ("content-length", toString (Utf8.encode r.body.toList).length)]

def text (r : Request) : String :=
  r.firstLine ++ "\r\n"
    ++ String.join (r.headers.map fun (name, value) => name ++ ": " ++ value ++ "\r\n")
    ++ "\r\n" ++ r.body

def bytes (r : Request) : List UInt8 :=
  Utf8.encode r.text.toList

end Request

namespace Response

def plain (bs : List UInt8) : List Char :=
  bs.map fun b => Char.ofNat b.toNat

def splitLine : List UInt8 → Option (List UInt8 × List UInt8)
  | [] => none
  | 0x0D :: 0x0A :: bs => some ([], bs)
  | 0x0A :: bs => some ([], bs)
  | b :: bs => (splitLine bs).map fun (line, rest) => (b :: line, rest)

theorem splitLine_length {bs line rest : List UInt8} (h : splitLine bs = some (line, rest)) :
    rest.length < bs.length := by
  induction bs using splitLine.induct generalizing line with
  | case1 => simp [splitLine] at h
  | case2 bs =>
    simp only [splitLine, Option.some.injEq, Prod.mk.injEq] at h
    simp only [← h.2, List.length_cons]
    omega
  | case3 bs =>
    simp only [splitLine, Option.some.injEq, Prod.mk.injEq] at h
    simp only [← h.2, List.length_cons]
    omega
  | case4 b bs h1 h2 ih =>
    rw [splitLine] at h
    · simp only [Option.map_eq_some_iff, Prod.exists, Prod.mk.injEq] at h
      obtain ⟨l, r, hr, _, rfl⟩ := h
      have := ih hr
      simp only [List.length_cons]
      omega
    · exact h1
    · exact h2

def splitHead (bs : List UInt8) : Option (List (List UInt8) × List UInt8) :=
  match _h : splitLine bs with
  | none => none
  | some ([], rest) => some ([], rest)
  | some (line, rest) => (splitHead rest).map fun (lines, rest) => (line :: lines, rest)
termination_by bs.length
decreasing_by exact splitLine_length _h

def readHeader (line : List UInt8) : String × String :=
  let s := plain line
  let isBlank (c : Char) := c = ' ' || c = '\t'
  let value := ((s.dropWhile (· ≠ ':')).drop 1).dropWhile isBlank
  (String.ofList ((s.takeWhile (· ≠ ':')).map Char.toLower),
   String.ofList (value.reverse.dropWhile isBlank).reverse)

def readStatus? (line : List UInt8) : Option Nat :=
  let s := plain line
  if "HTTP/1.".toList.isPrefixOf s then
    let digits := (s.drop 9).takeWhile Char.isDigit
    if digits.length = 3 then Url.digits? 10 digits else none
  else none

def joinPieces (bs : List UInt8) : Option (List UInt8) :=
  match _h : splitLine bs with
  | none => none
  | some (line, rest) =>
    match Url.digits? 16 ((plain line).takeWhile fun c => (Text.hexValue? c).isSome) with
    | none => none
    | some 0 => some []
    | some n =>
      if rest.length < n then none
      else
        match _h' : splitLine (rest.drop n) with
        | none => none
        | some (_, rest') => (joinPieces rest').map (rest.take n ++ ·)
termination_by bs.length
decreasing_by
  have h₁ := splitLine_length _h
  have h₂ := splitLine_length _h'
  simp only [List.length_drop] at h₂
  omega

def readBody (headers : List (String × String)) (rest : List UInt8) :
    Except TransportError (List UInt8) :=
  if (headers.lookup "transfer-encoding").isSome then
    match joinPieces rest with
    | some body => .ok body
    | none => .error .cutShort
  else
    match (headers.lookup "content-length").bind fun s => Url.digits? 10 s.toList with
    | some n => if rest.length < n then .error .cutShort else .ok (rest.take n)
    | none => .ok rest

def ofBytes (url : Url) (bs : List UInt8) : Except TransportError Response :=
  match splitHead bs with
  | some (first :: lines, rest) =>
    match readStatus? first with
    | none => .error (.brokenOff url.text)
    | some status => do
      let headers := lines.map readHeader
      let body ← readBody headers rest
      return ⟨status, headers.lookup "content-type", body⟩
  | _ => .error (.brokenOff url.text)

end Response

end PromptRelay.Http
