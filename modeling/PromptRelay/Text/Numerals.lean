namespace PromptRelay.Text

def readSign : List Char → Bool × List Char
  | '-' :: s => (true, s)
  | '+' :: s => (false, s)
  | s => (false, s)

def hexValue? (c : Char) : Option Nat :=
  if c.isDigit then some (c.toNat - 48)
  else if 'a' ≤ c ∧ c ≤ 'f' then some (c.toNat - 87)
  else if 'A' ≤ c ∧ c ≤ 'F' then some (c.toNat - 55)
  else none

def upperHexDigit (n : Nat) : Char :=
  "0123456789ABCDEF".toList.getD n '0'

def isLeading (n : Nat) : Bool :=
  0xD800 ≤ n && n ≤ 0xDBFF

def isTrailing (n : Nat) : Bool :=
  0xDC00 ≤ n && n ≤ 0xDFFF

def pairChar (leading trailing : Nat) : Char :=
  Char.ofNat ((leading - 0xD800) * 1024 + (trailing - 0xDC00) + 0x10000)

end PromptRelay.Text
