namespace PromptRelay.Utf8

inductive Shape where
  | whole (c : Char)
  | start
  | broken

def isTrail (b : UInt8) : Bool :=
  0x80 ≤ b && b ≤ 0xBF

def isSecond (a b : UInt8) : Bool :=
  if a = 0xE0 then 0xA0 ≤ b && b ≤ 0xBF
  else if a = 0xED then 0x80 ≤ b && b ≤ 0x9F
  else if a = 0xF0 then 0x90 ≤ b && b ≤ 0xBF
  else if a = 0xF4 then 0x80 ≤ b && b ≤ 0x8F
  else 0xC2 ≤ a && a ≤ 0xF4 && isTrail b

def bits (b : UInt8) : Nat :=
  b.toNat % 64

def shape : List UInt8 → Shape
  | [a] =>
    if a < 0x80 then .whole (Char.ofNat a.toNat)
    else if 0xC2 ≤ a && a ≤ 0xF4 then .start
    else .broken
  | [a, b] =>
    if !isSecond a b then .broken
    else if a < 0xE0 then .whole (Char.ofNat (a.toNat % 32 * 64 + bits b))
    else .start
  | [a, b, c] =>
    if !(isSecond a b && isTrail c && 0xE0 ≤ a) then .broken
    else if a < 0xF0 then .whole (Char.ofNat ((a.toNat % 16 * 64 + bits b) * 64 + bits c))
    else .start
  | [a, b, c, d] =>
    if !(isSecond a b && isTrail c && isTrail d && 0xF0 ≤ a) then .broken
    else .whole (Char.ofNat (((a.toNat % 8 * 64 + bits b) * 64 + bits c) * 64 + bits d))
  | _ => .broken

def encode (s : List Char) : List UInt8 :=
  s.flatMap String.utf8EncodeChar

def size : List Char → Nat
  | [] => 0
  | c :: s => c.utf8Size + size s

end PromptRelay.Utf8
