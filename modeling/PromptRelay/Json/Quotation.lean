import PromptRelay.Json.Cursor
import PromptRelay.Text.Numerals

namespace PromptRelay.Json.Quotation

open Text (hexValue? isLeading isTrailing pairChar)

def readUnit (k : Cursor) : Except Error (Nat × Cursor) :=
  let value? := match k.rest with
    | a :: b :: c :: d :: _ => do
      return ((← hexValue? a) * 16 + (← hexValue? b)) * 256
        + (← hexValue? c) * 16 + (← hexValue? d)
    | _ => none
  match value? with
  | some n => .ok (n, k.next.next.next.next)
  | none =>
    let bs := Utf8.encode k.rest
    if bs.length < 4 then .error ((k.past bs).error .endInString)
    else .error ((k.past (bs.take 4)).error .invalidEscape)

def take (k : Cursor) (c : Char) : Except Error Cursor :=
  match k.peek? with
  | none => .error (k.error .endInString)
  | some x => if x = c then .ok k.next else .error (k.errorAhead .unfinishedEscape)

def readCode (k : Cursor) : Except Error (Char × Cursor) := do
  let (n, k) ← readUnit k
  if isTrailing n then throw (k.error .loneSurrogate)
  if !isLeading n then return (Char.ofNat n, k)
  let k ← take k '\\'
  let k ← take k 'u'
  let (m, k) ← readUnit k
  if !isTrailing m then throw (k.error .loneSurrogate)
  return (pairChar n m, k)

def short? (c : Char) : Option Char :=
  match c with
  | '"' => some '"'
  | '\\' => some '\\'
  | '/' => some '/'
  | 'b' => some '\x08'
  | 'f' => some '\x0c'
  | 'n' => some '\n'
  | 'r' => some '\r'
  | 't' => some '\t'
  | _ => none

def readEscape (k : Cursor) : Except Error (Char × Cursor) :=
  match k.peek? with
  | none => .error (k.error .endInString)
  | some 'u' => readCode k.next
  | some c =>
    match short? c with
    | some x => .ok (x, k.next)
    | none => .error (k.errorAhead .invalidEscape)

def readUpTo : Nat → Cursor → Except Error (List Char × Cursor)
  | 0, k => .error (k.error .endInString)
  | bound + 1, k =>
    match k.peek? with
    | none => .error (k.error .endInString)
    | some c =>
      if c = '"' then .ok ([], k.next)
      else if c = '\\' then do
        let (x, k) ← readEscape k.next
        let (s, k) ← readUpTo bound k
        return (x :: s, k)
      else if c.toNat < 0x20 then .error (k.next.error .controlCharacter)
      else do
        let (s, k) ← readUpTo bound k.next
        return (c :: s, k)

def read (k : Cursor) : Except Error (String × Cursor) := do
  let (s, k) ← readUpTo (k.rest.length + 1) k
  return (String.ofList s, k)

def skipEscape (k : Cursor) : Except Error Cursor :=
  match k.peek? with
  | none => .error (k.error .endInString)
  | some 'u' => (readUnit k.next).map (·.2)
  | some c => if (short? c).isSome then .ok k.next else .error (k.errorAhead .invalidEscape)

def skipUpTo : Nat → Cursor → Except Error Cursor
  | 0, k => .error (k.error .endInString)
  | bound + 1, k =>
    match k.peek? with
    | none => .error (k.error .endInString)
    | some c =>
      if c = '"' then .ok k.next
      else if c = '\\' then do
        let k ← skipEscape k.next
        skipUpTo bound k
      else if c.toNat < 0x20 then .error (k.error .controlCharacter)
      else skipUpTo bound k.next

def skip (k : Cursor) : Except Error Cursor :=
  skipUpTo (k.rest.length + 1) k

end PromptRelay.Json.Quotation
