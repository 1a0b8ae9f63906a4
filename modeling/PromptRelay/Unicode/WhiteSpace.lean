import PromptRelay.Unicode.Ranges

namespace PromptRelay.Unicode

def whiteSpaceRanges : List (Nat × Nat) :=
  [(0x0009, 0x000D), (0x0020, 0x0020), (0x0085, 0x0085), (0x00A0, 0x00A0), (0x1680, 0x1680),
   (0x2000, 0x200A), (0x2028, 0x2029), (0x202F, 0x202F), (0x205F, 0x205F), (0x3000, 0x3000)]

def isWhiteSpace (c : Char) : Bool :=
  covers whiteSpaceRanges c.toNat

def trimStart (s : List Char) : List Char :=
  s.dropWhile isWhiteSpace

def trimEnd (s : List Char) : List Char :=
  (trimStart s.reverse).reverse

def trim (s : List Char) : List Char :=
  trimEnd (trimStart s)

def isBlank (s : String) : Bool :=
  (trim s.toList).isEmpty

theorem trimStart_trimStart (s : List Char) : trimStart (trimStart s) = trimStart s := by
  induction s with
  | nil => rfl
  | cons c s ih => by_cases h : isWhiteSpace c <;> simp_all [trimStart]

end PromptRelay.Unicode
