import PromptRelay.Json.Cursor

namespace PromptRelay.Json

inductive Numeral where
  | nat (n : Nat)
  | negative (n : Nat)
  | float (x : Binary)
  deriving DecidableEq, Repr

namespace Numeral

def greatestPower : Nat := 308

def power (n : Nat) : Binary :=
  Binary.ofNat .double (Nat.pow 10 n)

def scaleDown (x : Binary) (n : Nat) : Binary :=
  if _h : greatestPower < n ∧ !x.isZero then
    scaleDown (Binary.div .double x (power greatestPower)) (n - greatestPower)
  else if x.isZero then x
  else Binary.div .double x (power n)
termination_by n
decreasing_by
  have := _h.1
  have : 0 < greatestPower := by decide
  omega

def scaled? (significand : Nat) (e : Int) : Option Binary :=
  let x := Binary.ofNat .double significand
  if e < 0 then some (scaleDown x (-e).toNat)
  else if x.isZero then some x
  else if greatestPower < e.toNat then none
  else
    match Binary.mul .double x (power e.toNat) with
    | .infinite _ => none
    | y => some y

def accumulate (significand : Nat) : List Char → Nat × Nat
  | [] => (significand, 0)
  | c :: s =>
    let n := 10 * significand + (c.toNat - 48)
    if n < Nat.pow 2 64 then
      let (result, used) := accumulate n s
      (result, used + 1)
    else (significand, 0)

def signed (negative : Bool) (x : Binary) : Binary :=
  if negative then x.neg else x

def finish (k : Cursor) (negative : Bool) (significand : Nat) (e : Int) :
    Except Error (Numeral × Cursor) :=
  match scaled? significand e with
  | some x => .ok (.float (signed negative x), k)
  | none => .error (k.error .numberOutOfRange)

def exponentLimit : Nat := Nat.pow 2 31 - 1

/-- How many digits there are up to the one that brings an exponent over the limit. -/
def overLimit? (e : Nat) : List Char → Option Nat
  | [] => none
  | c :: s =>
    let n := 10 * e + (c.toNat - 48)
    if exponentLimit < n then some 1 else (overLimit? n s).map (· + 1)

def readExponent (k : Cursor) (negative : Bool) (significand : Nat) (e : Int) :
    Except Error (Numeral × Cursor) :=
  let k := k.next
  let minus := k.peek = '-'
  let k := if k.peek = '+' || k.peek = '-' then k.next else k
  let digits := k.rest.takeWhile Char.isDigit
  let after := k.skip Char.isDigit
  if k.rest.isEmpty then .error (k.error .endInValue)
  else if digits.isEmpty then .error (k.errorAhead .invalidNumber)
  else
    match overLimit? 0 digits with
    | some n =>
      if significand ≠ 0 && !minus then
        .error ((k.past (List.replicate n 0x30)).error .numberOutOfRange)
      else .ok (.float (signed negative (Binary.ofNat .double 0)), after)
    | none =>
      let n : Int := (accumulate 0 digits).1
      finish after negative significand (if minus then e - n else e + n)

def readScale (k : Cursor) (negative : Bool) (significand : Nat) (e : Int) :
    Except Error (Numeral × Cursor) :=
  if k.peek = 'e' || k.peek = 'E' then readExponent k negative significand e
  else finish k negative significand e

def readFraction (k : Cursor) (negative : Bool) (significand : Nat) (e : Int) :
    Except Error (Numeral × Cursor) :=
  let k := k.next
  let digits := k.rest.takeWhile Char.isDigit
  if k.rest.isEmpty then .error (k.errorAhead .endInValue)
  else if digits.isEmpty then .error (k.errorAhead .invalidNumber)
  else
    let (significand, used) := accumulate significand digits
    readScale (k.skip Char.isDigit) negative significand (e - used)

def whole (negative : Bool) (n : Nat) : Numeral :=
  if !negative then .nat n
  else if n = 0 ∨ Nat.pow 2 63 < n then .float (Binary.ofNat .double n).neg
  else .negative n

def readUnsigned (k : Cursor) (negative : Bool) : Except Error (Numeral × Cursor) :=
  let digits := k.rest.takeWhile Char.isDigit
  let after := k.skip Char.isDigit
  match digits with
  | [] => .error (if k.rest.isEmpty then k.error .endInValue else k.errorAhead .invalidNumber)
  | '0' :: _ :: _ => .error (k.next.errorAhead .invalidNumber)
  | _ =>
    let (significand, used) := accumulate 0 digits
    let dropped := digits.length - used
    if after.peek = '.' then readFraction after negative significand dropped
    else if after.peek = 'e' || after.peek = 'E' then
      readExponent after negative significand dropped
    else if 0 < dropped then finish after negative significand dropped
    else .ok (whole negative significand, after)

def read (k : Cursor) : Except Error (Numeral × Cursor) :=
  if k.peek = '-' then readUnsigned k.next true else readUnsigned k false

def skipExponent (k : Cursor) : Except Error Cursor :=
  let k := k.next
  let k := if k.peek = '+' || k.peek = '-' then k.next else k
  if k.peek.isDigit then .ok (k.skip Char.isDigit) else .error (k.errorAhead .invalidNumber)

def skipFraction (k : Cursor) : Except Error Cursor :=
  let k := k.next
  let after := k.skip Char.isDigit
  if !k.peek.isDigit then .error (k.errorAhead .invalidNumber)
  else if after.peek = 'e' || after.peek = 'E' then skipExponent after
  else .ok after

def skipUnsigned (k : Cursor) : Except Error Cursor :=
  let after := k.skip Char.isDigit
  match k.rest.takeWhile Char.isDigit with
  | [] => .error (k.errorAhead .invalidNumber)
  | '0' :: _ :: _ => .error (k.next.errorAhead .invalidNumber)
  | _ =>
    if after.peek = '.' then skipFraction after
    else if after.peek = 'e' || after.peek = 'E' then skipExponent after
    else .ok after

def skip (k : Cursor) : Except Error Cursor :=
  skipUnsigned (if k.peek = '-' then k.next else k)

def doubles : Binary.Layout :=
  ⟨.even, some (-5, 15), ".0", "NaN", "inf", "-inf"⟩

def kind : Numeral → String
  | nat n => "integer `" ++ toString n ++ "`"
  | negative n => "integer `-" ++ toString n ++ "`"
  | float x => "floating point `" ++ doubles.write .double x ++ "`"

def toBinary (f : Binary.Format) : Numeral → Binary
  | nat n => Binary.ofNat f n
  | negative n => (Binary.ofNat f n).neg
  | float x => x.convert f

end Numeral

end PromptRelay.Json
