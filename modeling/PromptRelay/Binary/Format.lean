namespace PromptRelay

structure Binary.Format where
  precision : Nat
  minExponent : Int
  maxExponent : Int

inductive Binary where
  | nan
  | infinite (negative : Bool)
  | finite (negative : Bool) (mantissa : Nat) (exponent : Int)
  deriving DecidableEq, Repr

namespace Binary

def Format.single : Format := ⟨24, -149, 104⟩

def Format.double : Format := ⟨53, -1074, 971⟩

/-- The fraction `num / den` divided by `base ^ e`. -/
def scale (base num den : Nat) (e : Int) : Nat × Nat :=
  if 0 ≤ e then (num, den * base.pow e.toNat) else (num * base.pow (-e).toNat, den)

def nearest (num den : Nat) : Nat :=
  let q := num / den
  let r := num % den
  if 2 * r < den then q else if den < 2 * r then q + 1 else q + q % 2

def exponentFor (f : Format) (num den : Nat) : Int :=
  let e := (num.log2 : Int) - den.log2 - (f.precision - 1)
  let (n, d) := scale 2 num den e
  max f.minExponent (if n < Nat.pow 2 (f.precision - 1) * d then e - 1 else e)

def round (f : Format) (negative : Bool) (num den : Nat) : Binary :=
  if num = 0 then .finite negative 0 f.minExponent
  else
    let e := exponentFor f num den
    let (n, d) := scale 2 num den e
    let m := nearest n d
    let (m, e) := if m = Nat.pow 2 f.precision then (Nat.pow 2 (f.precision - 1), e + 1) else (m, e)
    if f.maxExponent < e then .infinite negative else .finite negative m e

def convert (f : Format) : Binary → Binary
  | .nan => .nan
  | .infinite negative => .infinite negative
  | .finite negative m e =>
    let (num, den) := scale 2 m 1 (-e)
    round f negative num den

def ofNat (f : Format) (n : Nat) : Binary :=
  round f false n 1

def ofInt (f : Format) (n : Int) : Binary :=
  round f (n < 0) n.natAbs 1

def neg : Binary → Binary
  | .nan => .nan
  | .infinite negative => .infinite !negative
  | .finite negative m e => .finite (!negative) m e

def toRat? : Binary → Option Rat
  | .finite negative m e =>
    let (num, den) := scale 2 m 1 (-e)
    some (mkRat (if negative then -num else num) den)
  | _ => none

def ofRat (f : Format) (q : Rat) : Binary :=
  round f (q < 0) q.num.natAbs q.den

def add (f : Format) (x y : Binary) : Binary :=
  match x.toRat?, y.toRat? with
  | some a, some b => ofRat f (a + b)
  | _, _ => .nan

def mul (f : Format) (x y : Binary) : Binary :=
  match x.toRat?, y.toRat? with
  | some a, some b => ofRat f (a * b)
  | _, _ => .nan

def div (f : Format) (x y : Binary) : Binary :=
  match x.toRat?, y.toRat? with
  | some a, some b => ofRat f (a / b)
  | _, _ => .nan

def isZero (x : Binary) : Bool :=
  x.toRat? = some 0

def isFinite (x : Binary) : Bool :=
  x.toRat?.isSome

end Binary

end PromptRelay
