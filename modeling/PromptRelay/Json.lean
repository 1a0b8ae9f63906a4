import PromptRelay.Binary.Layout

namespace PromptRelay

inductive Json where
  | null
  | bool (b : Bool)
  | nat (n : Nat)
  | single (x : Binary)
  | string (s : String)
  | array (items : List Json)
  | object (members : List (String × Json))

namespace Json

def numbers : Binary.Layout :=
  ⟨.even, some (-6, 12), ".0", "null", "null", "null"⟩

def hexDigit (n : Nat) : Char :=
  "0123456789abcdef".toList.getD n '0'

def escapeChar (c : Char) : List Char :=
  if c = '"' then ['\\', '"']
  else if c = '\\' then ['\\', '\\']
  else if 0x20 ≤ c.toNat then [c]
  else if c = '\x08' then ['\\', 'b']
  else if c = '\t' then ['\\', 't']
  else if c = '\n' then ['\\', 'n']
  else if c = '\x0c' then ['\\', 'f']
  else if c = '\r' then ['\\', 'r']
  else ['\\', 'u', '0', '0', hexDigit (c.toNat / 16), hexDigit (c.toNat % 16)]

def stringText (s : String) : List Char :=
  '"' :: (s.toList.flatMap escapeChar ++ ['"'])

def separated : List (List Char) → List Char
  | [] => []
  | [s] => s
  | s :: rest => s ++ ',' :: separated rest

mutual

def chars : Json → List Char
  | null => "null".toList
  | bool b => (if b then "true" else "false").toList
  | nat n => Nat.toDigits 10 n
  | single x => (numbers.write .single x).toList
  | string s => stringText s
  | array items => '[' :: (separated (itemTexts items) ++ [']'])
  | object members => '{' :: (separated (memberTexts members) ++ ['}'])

def itemTexts : List Json → List (List Char)
  | [] => []
  | v :: rest => chars v :: itemTexts rest

def memberTexts : List (String × Json) → List (List Char)
  | [] => []
  | (name, v) :: rest => (stringText name ++ ':' :: chars v) :: memberTexts rest

end

def text (v : Json) : String :=
  String.ofList v.chars

def ofMembers (members : List (String × Option Json)) : Json :=
  .object (members.filterMap fun (name, v) => v.map fun v => (name, v))

end Json

end PromptRelay
