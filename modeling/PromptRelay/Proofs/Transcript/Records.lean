import PromptRelay.Proofs.Json.RoundTrip
import PromptRelay.Proofs.Line.Terminator
import PromptRelay.Proofs.Members
import PromptRelay.Proofs.Utf8.LenientDecoding
import PromptRelay.Transcript

namespace PromptRelay

namespace Json.Value

def text? : Value → Option String
  | .string s => some s
  | _ => none

def nat? : Value → Option ℕ
  | .number (.nat n) => some n
  | _ => none

end Json.Value

namespace Event

open Json (Value)

def IsBounded : Event → Prop
  | reply _ _ elapsed => elapsed < Nat.pow 2 64
  | failure _ _ elapsed => elapsed < Nat.pow 2 64
  | sessionClosed _ s => s.answered < Nat.pow 2 64 ∧ s.discarded < Nat.pow 2 64 ∧
      s.failures < Nat.pow 2 64 ∧ s.bytesRead < Nat.pow 2 64 ∧ s.unterminatedBytes < Nat.pow 2 64
  | _ => True

def fields : Event → List (String × Value)
  | sessionOpened peer => [("type", .string "session_opened"), ("peer", .string peer)]
  | discarded peer => [("type", .string "discarded"), ("peer", .string peer)]
  | request peer query =>
    [("type", .string "request"), ("peer", .string peer), ("query", .string query)]
  | reply peer line elapsed =>
    [("type", .string "reply"), ("peer", .string peer), ("line", .string line),
     ("elapsed_ms", .number (.nat elapsed))]
  | failure peer cause elapsed =>
    [("type", .string "failure"), ("peer", .string peer), ("cause", .string cause),
     ("elapsed_ms", .number (.nat elapsed))]
  | fault peer cause =>
    [("type", .string "fault"), ("peer", .string peer), ("cause", .string cause)]
  | sessionClosed peer s =>
    [("type", .string "session_closed"), ("peer", .string peer),
     ("answered", .number (.nat s.answered)), ("discarded", .number (.nat s.discarded)),
     ("failures", .number (.nat s.failures)), ("bytes_read", .number (.nat s.bytesRead)),
     ("unterminated_bytes", .number (.nat s.unterminatedBytes))]

def ofFields? (fields : List (String × Value)) : Option Event := do
  let text (name : String) := fields.lookup name >>= Value.text?
  let number (name : String) := fields.lookup name >>= Value.nat?
  let peer ← text "peer"
  match ← text "type" with
  | "session_opened" => return sessionOpened peer
  | "discarded" => return discarded peer
  | "request" => return request peer (← text "query")
  | "reply" => return reply peer (← text "line") (← number "elapsed_ms")
  | "failure" => return failure peer (← text "cause") (← number "elapsed_ms")
  | "fault" => return fault peer (← text "cause")
  | "session_closed" =>
    return sessionClosed peer
      { answered := ← number "answered"
        discarded := ← number "discarded"
        failures := ← number "failures"
        bytesRead := ← number "bytes_read"
        unterminatedBytes := ← number "unterminated_bytes" }
  | _ => none

def readFields? (line : List UInt8) : Option (List (String × Value)) := do
  let text ← Utf8.decode? line
  match Value.parse (String.ofList text) with
  | .ok (.object fields) => some fields
  | _ => none

def line (e : Event) (time : String) : List UInt8 :=
  Utf8.encode (e.record time).chars

theorem recordBytes_eq (e : Event) (time : String) : e.recordBytes time = e.line time ++ [0x0A] :=
  rfl

theorem fields_nodup (e : Event) (time : String) :
    ((("timestamp", Value.string time) :: e.fields).map Prod.fst).Nodup := by
  cases e <;> exact of_decide_eq_true rfl

theorem ofFields?_fields (e : Event) (time : String) :
    ofFields? (("timestamp", .string time) :: e.fields) = some e := by
  cases e <;> rfl

theorem ofFields?_of_perm {e : Event} {time : String} {fields : List (String × Value)}
    (h : fields.Perm (("timestamp", .string time) :: e.fields)) : ofFields? fields = some e := by
  have hlookup := lookup_eq_of_perm h.symm (e.fields_nodup time)
  rw [← e.ofFields?_fields time]
  simp only [ofFields?, hlookup]

theorem membersDenote_fields {e : Event} (h : e.IsBounded) :
    Json.MembersDenote e.members e.fields := by
  have hnat {n : ℕ} (hn : n < Nat.pow 2 64) : Json.Denotes (.nat n) (.number (.nat n)) := by
    apply Json.Denotes.number
    rw [Json.chars]
    exact Json.Numeral.isText_toDigits hn
  cases e with
  | sessionOpened peer => exact .cons (.string _) (.cons (.string _) .nil)
  | discarded peer => exact .cons (.string _) (.cons (.string _) .nil)
  | request peer query => exact .cons (.string _) (.cons (.string _) (.cons (.string _) .nil))
  | reply peer line elapsed =>
    exact .cons (.string _) (.cons (.string _) (.cons (.string _) (.cons (hnat h) .nil)))
  | failure peer cause elapsed =>
    exact .cons (.string _) (.cons (.string _) (.cons (.string _) (.cons (hnat h) .nil)))
  | fault peer cause => exact .cons (.string _) (.cons (.string _) (.cons (.string _) .nil))
  | sessionClosed peer s =>
    obtain ⟨hanswered, hdiscarded, hfailures, hread, hunterminated⟩ := h
    exact .cons (.string _) (.cons (.string _) (.cons (hnat hanswered) (.cons (hnat hdiscarded)
      (.cons (hnat hfailures) (.cons (hnat hread) (.cons (hnat hunterminated) .nil))))))

theorem exists_membersDenote {e : Event} (h : e.IsBounded) (time : String) :
    ∃ fields,
      Json.MembersDenote (Json.sortMembers (("timestamp", .string time) :: e.members)) fields ∧
        fields.Perm (("timestamp", .string time) :: e.fields) := by
  have hmembers : Json.MembersDenote (("timestamp", .string time) :: e.members)
      (("timestamp", .string time) :: e.fields) := .cons (.string time) (membersDenote_fields h)
  have hsorted : (Json.sortMembers (("timestamp", .string time) :: e.members)).Perm
      (("timestamp", .string time) :: e.members) := List.mergeSort_perm _ _
  exact hmembers.of_perm hsorted

theorem readFields?_line {e : Event} (h : e.IsBounded) (time : String) :
    ∃ fields, readFields? (e.line time) = some fields ∧
      fields.Perm (("timestamp", .string time) :: e.fields) := by
  obtain ⟨fields, hfields, hperm⟩ := exists_membersDenote h time
  have hparse : Value.parse (String.ofList (e.record time).chars) = .ok (.object fields) :=
    Value.parse_text (.object hfields)
  refine ⟨fields, ?_, hperm⟩
  simp [readFields?, line, Utf8.decode?_encode, hparse]

theorem isPrintable_members (e : Event) : ∀ m ∈ e.members, Json.IsPrintable m.2.chars := by
  have hstring (s : String) : Json.IsPrintable (Json.string s).chars := by
    rw [Json.chars]
    exact Json.isPrintable_stringText s
  have hnat (n : ℕ) : Json.IsPrintable (Json.nat n).chars := by
    rw [Json.chars]
    exact Json.Numeral.isPrintable_toDigits n
  cases e <;> simp [members, details, hstring, hnat]

theorem newline_not_mem_line (e : Event) (time : String) : 0x0A ∉ e.line time := by
  apply Utf8.newline_not_mem_encode
  apply Json.IsPrintable.newline_not_mem
  apply Json.isPrintable_object
  intro m hm
  have hmember := List.mem_mergeSort.mp hm
  rw [List.mem_cons] at hmember
  rcases hmember with rfl | hmember
  · rw [Json.chars]
    exact Json.isPrintable_stringText time
  · exact e.isPrintable_members m hmember

end Event

end PromptRelay
