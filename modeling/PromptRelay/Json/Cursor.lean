import PromptRelay.Json
import PromptRelay.Utf8.Sequence

namespace PromptRelay.Json

inductive Problem where
  | endInList
  | endInObject
  | endInString
  | endInValue
  | expectedColon
  | expectedListEnd
  | expectedObjectEnd
  | expectedWord
  | expectedValue
  | invalidEscape
  | invalidNumber
  | numberOutOfRange
  | controlCharacter
  | keyNotString
  | loneSurrogate
  | trailingComma
  | trailingCharacters
  | unfinishedEscape
  | unfit (reason : String)
  deriving DecidableEq, Repr

inductive Category where
  | syntactic
  | data
  | ending
  deriving DecidableEq, Repr

namespace Problem

def category : Problem → Category
  | unfit _ => .data
  | endInList => .ending
  | endInObject => .ending
  | endInString => .ending
  | endInValue => .ending
  | _ => .syntactic

def message : Problem → String
  | endInList => "EOF while parsing a list"
  | endInObject => "EOF while parsing an object"
  | endInString => "EOF while parsing a string"
  | endInValue => "EOF while parsing a value"
  | expectedColon => "expected `:`"
  | expectedListEnd => "expected `,` or `]`"
  | expectedObjectEnd => "expected `,` or `\x7d`"
  | expectedWord => "expected ident"
  | expectedValue => "expected value"
  | invalidEscape => "invalid escape"
  | invalidNumber => "invalid number"
  | numberOutOfRange => "number out of range"
  | controlCharacter => "control character (\\u0000-\\u001F) found while parsing a string"
  | keyNotString => "key must be a string"
  | loneSurrogate => "lone leading surrogate in hex escape"
  | trailingComma => "trailing comma"
  | trailingCharacters => "trailing characters"
  | unfinishedEscape => "unexpected end of hex escape"
  | unfit reason => reason

end Problem

structure Error where
  problem : Problem
  line : Nat
  column : Nat
  deriving DecidableEq, Repr

def Error.message (e : Error) : String :=
  e.problem.message ++ " at line " ++ toString e.line ++ " column " ++ toString e.column

structure Cursor where
  line : Nat := 1
  column : Nat := 0
  rest : List Char
  deriving DecidableEq, Repr

namespace Cursor

def start (s : String) : Cursor :=
  { rest := s.toList }

def past (k : Cursor) (bs : List UInt8) : Cursor :=
  bs.foldl (fun k b =>
    if b = 0x0A then { k with line := k.line + 1, column := 0 }
    else { k with column := k.column + 1 }) k

def next (k : Cursor) : Cursor :=
  match k.rest with
  | [] => k
  | '\n' :: s => ⟨k.line + 1, 0, s⟩
  | c :: s => ⟨k.line, k.column + c.utf8Size, s⟩

def peek? (k : Cursor) : Option Char :=
  k.rest.head?

def peek (k : Cursor) : Char :=
  k.peek?.getD '\x00'

def error (k : Cursor) (p : Problem) : Error :=
  ⟨p, k.line, k.column⟩

def errorAhead (k : Cursor) (p : Problem) : Error :=
  (k.past ((Utf8.encode k.rest).take 1)).error p

def isBlank (c : Char) : Bool :=
  c = ' ' || c = '\n' || c = '\t' || c = '\r'

def skipWhile (p : Char → Bool) (line column : Nat) : List Char → Cursor
  | [] => ⟨line, column, []⟩
  | c :: s =>
    if !p c then ⟨line, column, c :: s⟩
    else if c = '\n' then skipWhile p (line + 1) 0 s
    else skipWhile p line (column + c.utf8Size) s

def skip (p : Char → Bool) (k : Cursor) : Cursor :=
  skipWhile p k.line k.column k.rest

def skipBlanks (k : Cursor) : Cursor :=
  k.skip isBlank

def word (k : Cursor) : List Char → Except Error Cursor
  | [] => .ok k
  | w :: ws =>
    match k.peek? with
    | none => .error (k.error .endInValue)
    | some c => if c = w then k.next.word ws else .error (k.next.error .expectedWord)

end Cursor

end PromptRelay.Json
