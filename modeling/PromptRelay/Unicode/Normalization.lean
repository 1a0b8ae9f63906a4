import PromptRelay.Unicode.CombiningClass
import PromptRelay.Unicode.Decomposition.Alphabetic
import PromptRelay.Unicode.Decomposition.Symbolic
import PromptRelay.Unicode.Decomposition.Ideographic
import PromptRelay.Unicode.Decomposition.Presentation
import PromptRelay.Unicode.Decomposition.Supplementary

/-!
Compatibility decomposition (NFKD): every character is replaced by its full decomposition, then
marks are put into the order of their combining classes.
-/

namespace PromptRelay.Unicode

open Decomposition (alphabeticBlocks symbolicBlocks ideographicBlocks presentationBlocks
  supplementaryBlocks)

def imageIn : List (Nat × Nat × List (List Nat)) → Nat → Option (List Nat)
  | [], _ => none
  | (first, last, images) :: blocks, c =>
    if c < first then none else if c ≤ last then images[c - first]? else imageIn blocks c

def blocksFor (c : Nat) : List (Nat × Nat × List (List Nat)) :=
  if c < 0x2000 then alphabeticBlocks
  else if c < 0xF900 then symbolicBlocks
  else if c < 0xFB00 then ideographicBlocks
  else if c < 0x10000 then presentationBlocks
  else supplementaryBlocks

def jamo (index : Nat) : List Nat :=
  [0x1100 + index / 588, 0x1161 + index % 588 / 28] ++
    if index % 28 = 0 then [] else [0x11A7 + index % 28]

def decomposition (c : Nat) : List Nat :=
  if 0xAC00 ≤ c ∧ c ≤ 0xD7A3 then jamo (c - 0xAC00) else (imageIn (blocksFor c) c).getD [c]

def decompose (c : Char) : List Char :=
  (decomposition c.toNat).map Char.ofNat

def insertMark (c : Char) : List Char → List Char
  | [] => [c]
  | d :: s =>
    if 0 < combiningClass d ∧ combiningClass d < combiningClass c then d :: insertMark c s
    else c :: d :: s

def canonicalOrder (s : List Char) : List Char :=
  s.foldr insertMark []

def nfkd (s : List Char) : List Char :=
  canonicalOrder (s.flatMap decompose)

end PromptRelay.Unicode
