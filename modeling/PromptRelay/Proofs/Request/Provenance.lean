import PromptRelay.Json.Form
import PromptRelay.Proofs.Framer.LineRefinement
import PromptRelay.Proofs.Json.RoundTrip
import PromptRelay.Proofs.Line.NormalForm

namespace PromptRelay

theorem Unicode.trim_trim (s : List Char) : trim (trim s) = trim s :=
  trim_eq_self (fun _ => head?_trim) (fun _ => getLast?_trim)

namespace Request

structure IsTrimmed (r : Request) : Prop where
  ne_empty : r.query ≠ ""
  trim_eq : String.ofList (Unicode.trim r.query.toList) = r.query

variable {r : Request} {raw : List Char}

theorem ofText?_eq_some_iff :
    ofText? raw = some r ↔ Unicode.trim raw ≠ [] ∧ r.query.toList = Unicode.trim raw := by
  unfold ofText?
  obtain ⟨query⟩ := r
  cases Unicode.trim raw with
  | nil => simp
  | cons c s => simp [← String.toList_inj, eq_comm]

theorem isTrimmed_of_ofText? (h : ofText? raw = some r) : r.IsTrimmed := by
  obtain ⟨hne, hquery⟩ := ofText?_eq_some_iff.mp h
  constructor
  · intro hempty
    rw [hempty] at hquery
    exact hne hquery.symm
  · rw [hquery, Unicode.trim_trim, ← hquery, String.ofList_toList]

theorem isTrimmed_iff : r.IsTrimmed ↔ ofText? r.query.toList = some r := by
  constructor
  · intro h
    have htrim : r.query.toList = Unicode.trim r.query.toList := by
      rw [← String.toList_ofList (l := Unicode.trim r.query.toList), h.trim_eq]
    refine ofText?_eq_some_iff.mpr ⟨?_, htrim⟩
    rw [← htrim]
    intro hnil
    exact h.ne_empty (String.toList_inj.mp hnil)
  · exact isTrimmed_of_ofText?

end Request

namespace Framer

theorem exists_of_mem_scan {frame : Frame} {pending : Bool} {back s : List Char} {skip : ℕ}
    (h : frame ∈ (scan pending back skip s).1) : ∃ raw, frame = .ofText raw := by
  induction s generalizing pending back skip with
  | nil => simp [scan] at h
  | cons c s ih =>
    cases skip with
    | succ skip => exact ih h
    | zero =>
      rw [scan] at h
      split_ifs at h
      · exact ih h
      · rcases List.mem_cons.mp h with rfl | hrest
        · exact ⟨_, rfl⟩
        · exact ih hrest
      · exact ih h

theorem isTrimmed_of_mem_push {f : Framer} {fragment : List Char} {r : Request}
    (h : .request r ∈ (f.push fragment).1) : r.IsTrimmed := by
  obtain ⟨raw, hraw⟩ := exists_of_mem_scan h
  unfold Frame.ofText at hraw
  split at hraw
  next r' hr' =>
    obtain rfl := Frame.request.inj hraw
    exact Request.isTrimmed_of_ofText? hr'
  next => cases hraw

theorem isTrimmed_of_mem_pushEach {f : Framer} {fragments : List (List Char)} {r : Request}
    (h : .request r ∈ (f.pushEach fragments).1.flatten) : r.IsTrimmed := by
  induction fragments generalizing f with
  | nil => cases h
  | cons fragment fragments ih =>
    rw [pushEach, List.flatten_cons, List.mem_append] at h
    rcases h with hfirst | hrest
    · exact isTrimmed_of_mem_push hfirst
    · exact ih hrest

end Framer

namespace Json

theorem reads_string (s : String) (rest : List Char) :
    Reads (Shape.read .string) (stringText s) (.string s) rest := by
  intro k hk
  have hquote : k.rest = '"' :: (s.toList.flatMap escapeChar ++ ['"'] ++ rest) := hk
  obtain ⟨k', hread, hk'⟩ := Quotation.read_stringText s rest _ (Cursor.rest_next hquote)
  refine ⟨k', ?_, hk'⟩
  simp [Shape.read, readString, ahead_eq hquote rfl, Cursor.peek_eq hquote, hread, bind,
    Except.bind, pure, Except.pure]

theorem reads_singleton (type name s : String) (default : Option Json) (rest : List Char) :
    Reads (Shape.read (.record type [(name, .string, default)]))
      (object [(name, .string s)]).chars (.object [(name, .string s)]) rest := by
  intro k hk
  have hopen : k.rest = '{' :: (stringText name ++ ':' :: (stringText s ++ '}' :: rest)) := by
    simpa [chars, memberTexts, separated] using hk
  have hname := Cursor.rest_next hopen
  obtain ⟨k₁, hmore, hk₁⟩ := @nextMember_more k.next _ true hname
  obtain ⟨k₂, hquoted, hk₂⟩ := Quotation.read_stringText name _ _
    (Cursor.rest_next (by simpa using hk₁))
  obtain ⟨k₃, hvalue, hk₃⟩ := reads_string s ('}' :: rest) _ (Cursor.rest_next hk₂)
  have hend := nextMember_end hk₃ false
  refine ⟨k₃.next, ?_, Cursor.rest_next hk₃⟩
  have hslots : Shape.slots [(name, .string, default)] =
      [⟨name, Shape.read .string, default⟩] := rfl
  obtain ⟨bound, hbound⟩ : ∃ bound, k.rest.length = bound + 1 := ⟨_, congrArg List.length hopen⟩
  have hmembers : readMembers [⟨name, Shape.read .string, default⟩] (k.rest.length + 1) true []
      k.next = .ok ([(name, .string s)], k₃) := by
    rw [hbound]
    simp [readMembers, hmore, hquoted, readColon_eq hk₂, hvalue, hend, bind, Except.bind, pure,
      Except.pure]
  rw [Shape.read, hslots, readRecord, ahead_eq hopen rfl]
  simp [Cursor.peek_eq hopen, hmembers, fill, bind, Except.bind, pure, Except.pure]

theorem parse_of_reads {shape : Shape} {text : List Char} {v : Json}
    (h : Reads shape.read text v []) : shape.parse (String.ofList text) = .ok v := by
  have hstart : (Cursor.start (String.ofList text)).rest = text ++ [] := by
    rw [Cursor.start, String.toList_ofList, List.append_nil]
  obtain ⟨k, hread, hk⟩ := h _ hstart
  have hend : k.skipBlanks.rest = [] := by
    rw [Cursor.skipBlanks, Cursor.rest_skip, hk]
    rfl
  simp [Shape.parse, hread, hend, bind, Except.bind, pure, Except.pure]

end Json

namespace Request

inductive Origin where
  | text (raw : List Char)
  | stream (f : Framer) (fragments : List (List Char))
  | json (s : String)

def Origin.Gives : Origin → Request → Prop
  | .text raw, r => ofText? raw = some r
  | .stream f fragments, r => .request r ∈ (f.pushEach fragments).1.flatten
  | .json s, r => Json.parse Request s = .ok r

theorem parse_text (r : Request) : Json.parse Request (Json.Form.toJson r).text = .ok r := by
  have hshape : (Json.Form.shape Request).parse (Json.Form.toJson r).text =
      .ok (.object [("query", .string r.query)]) :=
    Json.parse_of_reads (Json.reads_singleton "Request" "query" r.query none [])
  rw [Json.parse, hshape]
  rfl

theorem provenance {o : Origin} {r : Request} (h : o.Gives r) :
    (r.IsTrimmed ↔ ofText? r.query.toList = some r) ∧
      ((∀ s, o ≠ .json s) → r.IsTrimmed) ∧
      (Origin.json (Json.Form.toJson r).text).Gives r := by
  refine ⟨isTrimmed_iff, ?_, parse_text r⟩
  intro hnot
  cases o with
  | text raw => exact isTrimmed_of_ofText? h
  | stream f fragments => exact Framer.isTrimmed_of_mem_pushEach h
  | json s => exact absurd rfl (hnot s)

theorem provenance_spaced :
    (Origin.text "\u00A0 2 + 2?\t\r".toList).Gives ⟨"2 + 2?"⟩ ∧
      (⟨"2 + 2?"⟩ : Request).IsTrimmed := by
  have htext : (Origin.text "\u00A0 2 + 2?\t\r".toList).Gives ⟨"2 + 2?"⟩ := by
    rw [Origin.Gives]
    decide +kernel
  exact ⟨htext, (provenance htext).2.1 nofun⟩

theorem parse_blank :
    (Origin.json "\x7b\"query\":\"  \"\x7d").Gives ⟨"  "⟩ ∧ ofText? "  ".toList = none ∧
      ¬(⟨"  "⟩ : Request).IsTrimmed := by
  have hparse : (Origin.json "\x7b\"query\":\"  \"\x7d").Gives ⟨"  "⟩ := by
    rw [Origin.Gives]
    decide +kernel
  have hnone : ofText? "  ".toList = none := by decide +kernel
  refine ⟨hparse, hnone, ?_⟩
  rw [isTrimmed_iff, hnone]
  exact nofun

end Request

end PromptRelay
