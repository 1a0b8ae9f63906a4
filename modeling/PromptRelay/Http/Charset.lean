import PromptRelay.Text.Numerals
import PromptRelay.Utf8.Sequence

namespace PromptRelay.Http.Charset

open Text (isLeading isTrailing pairChar)

def replacement : Char := '\uFFFD'

def utf8From (held : List UInt8) : List UInt8 → List Char
  | [] => if held.isEmpty then [] else [replacement]
  | b :: bs =>
    match Utf8.shape (held ++ [b]) with
    | .whole c => c :: utf8From [] bs
    | .start => utf8From (held ++ [b]) bs
    | .broken =>
      let lost := if held.isEmpty then [] else [replacement]
      lost ++ match Utf8.shape [b] with
        | .whole c => c :: utf8From [] bs
        | .start => utf8From [b] bs
        | .broken => replacement :: utf8From [] bs

def utf8 (bs : List UInt8) : List Char :=
  utf8From [] bs

def units (bigEndian : Bool) : List UInt8 → List (Option Nat)
  | a :: b :: bs =>
    some (if bigEndian then a.toNat * 256 + b.toNat else b.toNat * 256 + a.toNat)
      :: units bigEndian bs
  | [_] => [none]
  | [] => []

def utf16 : List (Option Nat) → List Char
  | [] => []
  | some a :: some b :: rest =>
    if isLeading a && isTrailing b then
      pairChar a b :: utf16 rest
    else (if isLeading a || isTrailing a then replacement else Char.ofNat a)
      :: utf16 (some b :: rest)
  | some a :: rest =>
    (if isLeading a || isTrailing a then replacement else Char.ofNat a) :: utf16 rest
  | none :: rest => replacement :: utf16 rest

def westernHigh : List Nat :=
  [0x20AC, 0x81, 0x201A, 0x192, 0x201E, 0x2026, 0x2020, 0x2021, 0x2C6, 0x2030, 0x160, 0x2039, 0x152,
   0x8D, 0x17D, 0x8F, 0x90, 0x2018, 0x2019, 0x201C, 0x201D, 0x2022, 0x2013, 0x2014, 0x2DC, 0x2122,
   0x161, 0x203A, 0x153, 0x9D, 0x17E, 0x178]

def western (bs : List UInt8) : List Char :=
  bs.map fun b =>
    if 0x80 ≤ b && b ≤ 0x9F then Char.ofNat (westernHigh.getD (b.toNat - 0x80) 0)
    else Char.ofNat b.toNat

def westernNames : List String :=
  ["ansi_x3.4-1968", "ascii", "cp1252", "cp819", "csisolatin1", "ibm819", "iso-8859-1",
   "iso-ir-100", "iso8859-1", "iso88591", "iso_8859-1", "iso_8859-1:1987", "l1", "latin1",
   "us-ascii", "windows-1252", "x-cp1252"]

def littleEndianNames : List String :=
  ["csunicode", "iso-10646-ucs-2", "ucs-2", "unicode", "unicodefeff", "utf-16", "utf-16le"]

def bigEndianNames : List String :=
  ["unicodefffe", "utf-16be"]

/-- The text that bytes are in a character set. A byte order mark says more than the name; a name
that is not known stands for UTF-8. -/
def decode (name : String) (bs : List UInt8) : List Char :=
  match bs with
  | 0xEF :: 0xBB :: 0xBF :: rest => utf8 rest
  | 0xFF :: 0xFE :: rest => utf16 (units false rest)
  | 0xFE :: 0xFF :: rest => utf16 (units true rest)
  | bs =>
    if westernNames.contains name then western bs
    else if littleEndianNames.contains name then utf16 (units false bs)
    else if bigEndianNames.contains name then utf16 (units true bs)
    else utf8 bs

def splitAt (separator : Char) (s : List Char) : List Char × List Char :=
  (s.takeWhile (· ≠ separator), (s.dropWhile (· ≠ separator)).drop 1)

def isBlank (c : Char) : Bool :=
  c = ' ' || c = '\t'

def trim (s : List Char) : List Char :=
  ((s.dropWhile isBlank).reverse.dropWhile isBlank).reverse

def parameter? (name : List Char) : Nat → List Char → Option (List Char)
  | 0, _ => none
  | bound + 1, s =>
    if s.isEmpty then none
    else
      let (first, rest) := splitAt ';' s
      let (key, value) := splitAt '=' first
      if (trim key).map Char.toLower = name then some ((trim value).filter (· ≠ '"'))
      else parameter? name bound rest

def ofContentType (contentType : Option String) : String :=
  match contentType with
  | none => "utf-8"
  | some t =>
    let s := t.toList
    match parameter? "charset".toList (s.length + 1) (splitAt ';' s).2 with
    | some name => String.ofList (name.map Char.toLower)
    | none => "utf-8"

end PromptRelay.Http.Charset
