import PromptRelay.Binary.Decimal

namespace PromptRelay.Binary

structure Layout where
  tie : Tie
  /-- Least and greatest power of ten of the first digit that is written without an exponent;
  `none` writes every number so. -/
  plain : Option (Int × Int)
  afterWhole : String
  nan : String
  infinity : String
  minusInfinity : String

namespace Layout

def bare : Layout := ⟨.up, none, "", "NaN", "inf", "-inf"⟩

def zeros (n : Nat) : String :=
  String.ofList (List.replicate n '0')

def plainText (l : Layout) (d : Decimal) : String :=
  let ds := Nat.toDigits 10 d.digits
  if 0 ≤ d.exponent then String.ofList ds ++ zeros d.exponent.toNat ++ l.afterWhole
  else
    let places := (-d.exponent).toNat
    if places < ds.length then
      let k := ds.length - places
      String.ofList (ds.take k) ++ "." ++ String.ofList (ds.drop k)
    else "0." ++ zeros (places - ds.length) ++ String.ofList ds

def exponentText (d : Decimal) : String :=
  let ds := Nat.toDigits 10 d.digits
  let e := d.exponent + ds.length - 1
  let mantissa := match ds with
    | [] => ""
    | [c] => String.ofList [c]
    | c :: cs => String.ofList (c :: '.' :: cs)
  mantissa ++ "e" ++ (if e < 0 then "-" else "+") ++ toString e.natAbs

def decimalText (l : Layout) (d : Decimal) : String :=
  let e := d.exponent + (Nat.toDigits 10 d.digits).length - 1
  match l.plain with
  | none => l.plainText d
  | some (least, greatest) =>
    if least ≤ e ∧ e ≤ greatest then l.plainText d else exponentText d

def write (l : Layout) (f : Format) : Binary → String
  | .nan => l.nan
  | .infinite negative => if negative then l.minusInfinity else l.infinity
  | .finite negative m e =>
    let sign := if negative then "-" else ""
    sign ++ if m = 0 then "0" ++ l.afterWhole else l.decimalText (shortest f l.tie m e)

end Layout

end PromptRelay.Binary
