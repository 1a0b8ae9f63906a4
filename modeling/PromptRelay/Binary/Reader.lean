import PromptRelay.Binary.Decimal
import PromptRelay.Text.Numerals

namespace PromptRelay.Binary

open Text (readSign)

def readExponent? : List Char → Option Int
  | [] => some 0
  | c :: s =>
    if c = 'e' ∨ c = 'E' then
      let (negative, digits) := readSign s
      if digits.isEmpty || !digits.all Char.isDigit then none
      else
        let n : Int := Decimal.ofDigits digits
        some (if negative then -n else n)
    else none

def readDecimal? (s : List Char) : Option Decimal :=
  let whole := s.takeWhile Char.isDigit
  let (fraction, rest) := match s.dropWhile Char.isDigit with
    | '.' :: s => (s.takeWhile Char.isDigit, s.dropWhile Char.isDigit)
    | s => ([], s)
  if whole.isEmpty && fraction.isEmpty then none
  else (readExponent? rest).map (Decimal.ofParts whole fraction)

def read? (f : Format) (s : String) : Option Binary :=
  let (negative, rest) := readSign s.toList
  let word := String.ofList (rest.map Char.toLower)
  if word = "inf" ∨ word = "infinity" then some (.infinite negative)
  else if word = "nan" then some .nan
  else (readDecimal? rest).map (Decimal.round f negative)

end PromptRelay.Binary
