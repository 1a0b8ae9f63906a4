import PromptRelay.Json.Numeral
import PromptRelay.Json.Quotation
import PromptRelay.Text.Quoted

/-!
Reading JSON texts for what is wanted of them. The first thing that is wrong ends the reading, be
it the text or what it says. A record is an object or an array of its fields in order; members that
are no fields are skipped.
-/

namespace PromptRelay.Json

inductive Shape where
  | nat32
  | single
  | string
  | list (item : Shape)
  | option (value : Shape)
  | choice (names : List String)
  | record (type : String) (fields : List (String × Shape × Option Json))

def unfit (found wanted : String) : Problem :=
  .unfit ("invalid type: " ++ found ++ ", expected " ++ wanted)

def mismatch (k : Cursor) (wanted : String) : Error :=
  let after (found : String) : Except Error Cursor → Error
    | .ok k => k.error (unfit found wanted)
    | .error e => e
  match k.peek? with
  | some 'n' => after "null" (k.next.word "ull".toList)
  | some 't' => after "boolean `true`" (k.next.word "rue".toList)
  | some 'f' => after "boolean `false`" (k.next.word "alse".toList)
  | some '"' =>
    match Quotation.read k.next with
    | .ok (s, k) => k.error (unfit ("string " ++ Text.quoted s) wanted)
    | .error e => e
  | some '[' => k.error (unfit "sequence" wanted)
  | some '{' => k.error (unfit "map" wanted)
  | _ =>
    if k.peek = '-' || k.peek.isDigit then
      match Numeral.read k with
      | .ok (n, k) => k.error (unfit n.kind wanted)
      | .error e => e
    else k.errorAhead .expectedValue

def ahead (k : Cursor) (problem : Problem) : Except Error Cursor :=
  let k := k.skipBlanks
  if k.rest.isEmpty then .error (k.errorAhead problem) else .ok k

def readColon (k : Cursor) : Except Error Cursor := do
  let k ← ahead k .endInObject
  if k.peek = ':' then return k.next else throw (k.errorAhead .expectedColon)

def nextItem (first : Bool) (k : Cursor) : Except Error (Bool × Cursor) := do
  let k ← ahead k .endInList
  if k.peek = ']' then return (false, k)
  if first then return (true, k)
  if k.peek ≠ ',' then throw (k.errorAhead .expectedListEnd)
  let k ← ahead k.next .endInValue
  if k.peek = ']' then throw (k.errorAhead .trailingComma)
  return (true, k)

def nextMember (first : Bool) (k : Cursor) : Except Error (Bool × Cursor) := do
  let k ← ahead k .endInObject
  if k.peek = '}' then return (false, k)
  let k ← if first then pure k
    else if k.peek ≠ ',' then throw (k.errorAhead .expectedObjectEnd)
    else ahead k.next .endInValue
  if k.peek = '"' then return (true, k)
  throw (k.errorAhead (if !first && k.peek = '}' then .trailingComma else .keyNotString))

def closeList (k : Cursor) : Except Error Cursor := do
  let k ← ahead k .endInList
  if k.peek = ']' then return k.next
  if k.peek = ',' then
    let k := k.next.skipBlanks
    throw (k.errorAhead (if k.peek = ']' then .trailingComma else .trailingCharacters))
  throw (k.errorAhead .trailingCharacters)

/-- Skips a value that is wanted for nothing, given the brackets that are open around it, innermost
first. `bound` is at least twice the number of characters left. -/
def skipValue : Nat → List Char → Cursor → Except Error Cursor
  | 0, _, k => .error (k.error .endInValue)
  | bound + 1, brackets, k => do
    let k ← ahead k .endInValue
    match k.peek with
    | '[' => skipRest bound false ('[' :: brackets) k.next
    | '{' => skipRest bound false ('{' :: brackets) k.next
    | c =>
      let k ← match c with
        | 'n' => k.next.word "ull".toList
        | 't' => k.next.word "rue".toList
        | 'f' => k.next.word "alse".toList
        | '"' => Quotation.skip k.next
        | _ => if c = '-' || c.isDigit then Numeral.skip k else throw (k.errorAhead .expectedValue)
      skipRest bound true brackets k
where
  skipRest : Nat → Bool → List Char → Cursor → Except Error Cursor
  | _, _, [], k => .ok k
  | 0, _, _, k => .error (k.error .endInValue)
  | bound + 1, afterValue, bracket :: outer, k => do
    let isList := bracket = '['
    let k ← ahead k (if isList then .endInList else .endInObject)
    if k.peek = (if isList then ']' else '}') then skipRest bound true outer k.next
    else if afterValue && k.peek ≠ ',' then
      throw (k.errorAhead (if isList then .expectedListEnd else .expectedObjectEnd))
    else
      let k := if afterValue then k.next else k
      if isList then skipValue bound (bracket :: outer) k
      else
        let k ← ahead k .endInObject
        if k.peek ≠ '"' then throw (k.errorAhead .keyNotString)
        let k ← Quotation.skip k.next
        let k ← readColon k
        skipValue bound (bracket :: outer) k

abbrev Reader := Cursor → Except Error (Json × Cursor)

structure Slot where
  name : String
  read : Reader
  default : Option Json

def readNat32 : Reader := fun k => do
  let k ← ahead k .endInValue
  if k.peek ≠ '-' && !k.peek.isDigit then throw (mismatch k "u32")
  let (n, k) ← Numeral.read k
  match n with
  | .float _ => throw (k.error (unfit n.kind "u32"))
  | .negative _ => throw (k.error (.unfit ("invalid value: " ++ n.kind ++ ", expected u32")))
  | .nat m =>
    if m < Nat.pow 2 32 then return (.nat m, k)
    throw (k.error (.unfit ("invalid value: " ++ n.kind ++ ", expected u32")))

def readSingle : Reader := fun k => do
  let k ← ahead k .endInValue
  if k.peek ≠ '-' && !k.peek.isDigit then throw (mismatch k "f32")
  let (n, k) ← Numeral.read k
  return (.single (n.toBinary .single), k)

def readString (wanted : String) (k : Cursor) : Except Error (String × Cursor) := do
  let k ← ahead k .endInValue
  if k.peek = '"' then Quotation.read k.next else throw (mismatch k wanted)

def readItems (read : Reader) : Nat → Bool → Cursor → Except Error (List Json × Cursor)
  | 0, _, k => .error (k.error .endInList)
  | bound + 1, first, k => do
    let (more, k) ← nextItem first k
    if !more then return ([], k.next)
    let (v, k) ← read k
    let (vs, k) ← readItems read bound false k
    return (v :: vs, k)

def alternatives (names : List String) : String :=
  match names.map fun n => "`" ++ n ++ "`" with
  | [a] => a
  | [a, b] => a ++ " or " ++ b
  | ns => "one of " ++ ", ".intercalate ns

def readName (names : List String) (k : Cursor) : Except Error (Json × Cursor) := do
  let (s, k) ← readString "variant identifier" k
  if names.contains s then return (.string s, k)
  throw (k.error (.unfit ("unknown variant `" ++ s ++ "`, expected " ++ alternatives names)))

def readChoice (names : List String) : Reader := fun k => do
  let k ← ahead k .endInValue
  if k.peek = '"' then readName names k
  else if k.peek ≠ '{' then throw (k.errorAhead .expectedValue)
  else
    let (v, k) ← readName names k.next
    let k ← readColon k
    let k ← ahead k .endInValue
    if k.peek ≠ 'n' then throw (mismatch k "unit")
    let k := (← k.next.word "ull".toList).skipBlanks
    if k.peek = '}' then return (v, k.next)
    throw (k.error (if k.rest.isEmpty then .endInObject else .expectedValue))

def readSlots (type : String) (size : Nat) : Nat → List Slot → Cursor →
    Except Error (List (String × Json) × Cursor)
  | _, [], k => do return ([], ← closeList k)
  | n, slot :: rest, k => do
    let (more, k) ← nextItem (n = 0) k
    let (v, k) ← if more then slot.read k
      else match slot.default with
        | some v => pure (v, k)
        | none => throw (k.next.error (.unfit ("invalid length " ++ toString n
            ++ ", expected struct " ++ type ++ " with " ++ toString size
            ++ (if size = 1 then " element" else " elements"))))
    let (vs, k) ← readSlots type size (n + 1) rest k
    return ((slot.name, v) :: vs, k)

def readMembers (slots : List Slot) : Nat → Bool → List (String × Json) → Cursor →
    Except Error (List (String × Json) × Cursor)
  | 0, _, _, k => .error (k.error .endInObject)
  | bound + 1, first, found, k => do
    let (more, k) ← nextMember first k
    if !more then return (found, k)
    let (name, k) ← Quotation.read k.next
    match slots.find? fun s => s.name = name with
    | none =>
      let k ← readColon k
      let k ← skipValue (2 * k.rest.length + 2) [] k
      readMembers slots bound false found k
    | some slot =>
      if (found.lookup name).isSome then
        let k := k.skipBlanks
        let k := if k.peek = '}' then k.next else k
        throw (k.error (.unfit ("duplicate field `" ++ name ++ "`")))
      let k ← readColon k
      let (v, k) ← slot.read k
      readMembers slots bound false ((name, v) :: found) k

def fill (found : List (String × Json)) (k : Cursor) : List Slot →
    Except Error (List (String × Json))
  | [] => .ok []
  | slot :: rest => do
    let v ← match found.lookup slot.name, slot.default with
      | some v, _ => pure v
      | none, some v => pure v
      | none, none => throw (k.next.error (.unfit ("missing field `" ++ slot.name ++ "`")))
    let vs ← fill found k rest
    return ((slot.name, v) :: vs)

def readRecord (type : String) (slots : List Slot) : Reader := fun k => do
  let k ← ahead k .endInValue
  if k.peek = '[' then
    let (vs, k) ← readSlots type slots.length 0 slots k.next
    return (.object vs, k)
  else if k.peek = '{' then
    let (found, k) ← readMembers slots (k.rest.length + 1) true [] k.next
    let vs ← fill found k slots
    return (.object vs, k.next)
  else throw (mismatch k ("struct " ++ type))

namespace Shape

mutual

def read : Shape → Reader
  | nat32 => readNat32
  | single => readSingle
  | string => fun k => do
    let (s, k) ← readString "a string" k
    return (.string s, k)
  | list item => fun k => do
    let k ← ahead k .endInValue
    if k.peek ≠ '[' then throw (mismatch k "a sequence")
    let (vs, k) ← readItems (read item) (k.rest.length + 1) true k.next
    return (.array vs, k)
  | option v => fun k => do
    let k := k.skipBlanks
    if k.peek = 'n' then return (.null, ← k.next.word "ull".toList)
    read v k
  | choice names => readChoice names
  | record type fields => readRecord type (slots fields)

def slots : List (String × Shape × Option Json) → List Slot
  | [] => []
  | (name, shape, default) :: rest => ⟨name, read shape, default⟩ :: slots rest

end

def parse (shape : Shape) (s : String) : Except Error Json := do
  let (v, k) ← shape.read (Cursor.start s)
  let k := k.skipBlanks
  if k.rest.isEmpty then return v
  throw (k.errorAhead .trailingCharacters)

end Shape

end PromptRelay.Json
