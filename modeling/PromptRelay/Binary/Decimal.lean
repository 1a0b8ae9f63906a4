import PromptRelay.Binary.Format

namespace PromptRelay

structure Decimal where
  digits : Nat
  exponent : Int
  deriving DecidableEq, Repr

namespace Decimal

def ofDigits (s : List Char) : Nat :=
  s.foldl (fun n c => 10 * n + (c.toNat - 48)) 0

def ofParts (whole fraction : List Char) (exponent : Int) : Decimal :=
  ⟨ofDigits (whole ++ fraction), exponent - fraction.length⟩

def round (f : Binary.Format) (negative : Bool) (d : Decimal) : Binary :=
  let size := d.exponent + (Nat.toDigits 10 d.digits).length
  if d.digits = 0 ∨ size < -400 then .finite negative 0 f.minExponent
  else if 400 < size then .infinite negative
  else
    let (num, den) := Binary.scale 10 d.digits 1 (-d.exponent)
    Binary.round f negative num den

end Decimal

namespace Binary

inductive Tie where
  | up
  | even
  deriving DecidableEq, Repr

/-- The interval of fractions that round to a positive number, and whether its ends belong to it. -/
structure Span where
  low : Nat
  value : Nat
  high : Nat
  den : Nat
  closed : Bool

def span (f : Format) (m : Nat) (e : Int) : Span :=
  let below := if m = Nat.pow 2 (f.precision - 1) ∧ f.minExponent < e then 1 else 2
  let (unit, den) := scale 2 1 1 (2 - e)
  ⟨(4 * m - below) * unit, 4 * m * unit, (4 * m + 2) * unit, den, m % 2 = 0⟩

def Span.contains (s : Span) (n d : Nat) : Bool :=
  if s.closed then s.low * d ≤ n && n ≤ s.high * d else s.low * d < n && n < s.high * d

def Span.onGrid? (s : Span) (tie : Tie) (q : Int) : Option Decimal :=
  let (n, d) := scale 10 s.value s.den q
  let below := n / d
  let contains := fun k =>
    let (num, den) := scale 10 k 1 (-q)
    s.contains (num * s.den) den
  match contains below, contains (below + 1) with
  | false, false => none
  | true, false => some ⟨below, q⟩
  | false, true => some ⟨below + 1, q⟩
  | true, true =>
    let r := n % d
    if 2 * r < d then some ⟨below, q⟩
    else if d < 2 * r then some ⟨below + 1, q⟩
    else match tie with
      | .up => some ⟨below + 1, q⟩
      | .even => some ⟨below + below % 2, q⟩

/-- The shortest numeral that reads back as a positive number, found on the coarsest grid of powers
of ten that meets the span. -/
def shortest (f : Format) (tie : Tie) (m : Nat) (e : Int) : Decimal :=
  let s := span f m e
  let top := ((m.log2 : Int) + 1 + e) * 30103 / 100000 + 1
  ((List.range 25).findSome? fun (i : Nat) => s.onGrid? tie (top - i)).getD ⟨m, 0⟩

end Binary

end PromptRelay
