import PromptRelay.Proofs.Json.Preceded
import PromptRelay.Proofs.Transcript.Histories

/-!
What is appended to a transcript that is there already, whatever is in its file. Lines that have
ends stay as they are. What has none gets the first record behind it.
-/

namespace PromptRelay

namespace Utf8

theorem decode?_eq_some_iff {bs : List UInt8} {s : List Char} :
    decode? bs = some s ↔ encode s = bs := by
  constructor
  · intro h
    unfold decode? at h
    dsimp only at h
    split_ifs at h with hencode
    rw [← Option.some.inj h]
    exact hencode
  · rintro rfl
    exact decode?_encode s

theorem encode_injective : Function.Injective encode := by
  intro s s' h
  have hdecode := decode?_encode s
  rw [h, decode?_encode] at hdecode
  exact (Option.some.inj hdecode).symm

theorem encode_append (s s' : List Char) : encode (s ++ s') = encode s ++ encode s' :=
  List.flatMap_append

theorem utf8EncodeChar_eq_singleton {c : Char} {b : UInt8} (hb : b < 0x80)
    (h : b ∈ String.utf8EncodeChar c) : String.utf8EncodeChar c = [b] := by
  have hbyte (n : ℕ) : b = UInt8.ofNat n ↔ b.toNat = n % 256 := by
    rw [← UInt8.toNat_inj, UInt8.toNat_ofNat']
  have hlow : b.toNat < 128 := hb
  rw [utf8EncodeChar_eq] at h ⊢
  split_ifs at h ⊢
  · rw [List.mem_singleton.mp h]
  all_goals
    simp only [List.mem_cons, List.not_mem_nil, or_false, hbyte] at h
    omega

theorem exists_of_encode_eq_append {s : List Char} {xs ys : List UInt8} {b : UInt8} (hb : b < 0x80)
    (h : encode s = xs ++ b :: ys) : ∃ p w, s = p ++ w ∧ encode p = xs ∧ encode w = b :: ys := by
  induction s generalizing xs with
  | nil => simp [encode] at h
  | cons c s ih =>
    have hcons : encode (c :: s) = String.utf8EncodeChar c ++ encode s := List.flatMap_cons
    rw [hcons] at h
    rcases List.append_eq_append_iff.mp h with ⟨xs', rfl, hrest⟩ | ⟨ys', hc, hys⟩
    · obtain ⟨p, w, rfl, rfl, hw⟩ := ih hrest
      exact ⟨c :: p, w, rfl, List.flatMap_cons, hw⟩
    · cases ys' with
      | nil =>
        rw [List.append_nil] at hc
        exact ⟨[c], s, rfl, by rw [← hc]; simp [encode], hys.symm⟩
      | cons d ys' =>
        obtain rfl : b = d := (List.cons.inj hys).1
        have hsingle := utf8EncodeChar_eq_singleton hb (c := c) (by simp [hc])
        rw [hc] at hsingle
        have hxs : xs = [] := by
          cases xs with
          | nil => rfl
          | cons x xs => simp at hsingle
        exact ⟨[], c :: s, rfl, hxs.symm, by rw [hcons, h, hxs]; rfl⟩

end Utf8

namespace Event

open Json (Value)

def IsBlank (bytes : List UInt8) : Prop :=
  ∀ b ∈ bytes, b = 0x20 ∨ b = 0x0A ∨ b = 0x09 ∨ b = 0x0D

instance (bytes : List UInt8) : Decidable (IsBlank bytes) :=
  List.decidableBAll _ bytes

theorem isBlank_encode {p : List Char} (h : ∀ c ∈ p, Json.Cursor.isBlank c = true) :
    IsBlank (Utf8.encode p) := by
  intro b hb
  obtain ⟨c, hc, hb⟩ := List.mem_flatMap.mp hb
  have hblank := h c hc
  simp only [Json.Cursor.isBlank, Bool.or_eq_true, decide_eq_true_eq, or_assoc] at hblank
  rcases hblank with rfl | rfl | rfl | rfl
  · exact .inl (List.mem_singleton.mp hb)
  · exact .inr (.inl (List.mem_singleton.mp hb))
  · exact .inr (.inr (.inl (List.mem_singleton.mp hb)))
  · exact .inr (.inr (.inr (List.mem_singleton.mp hb)))

theorem IsBlank.exists_encode {bytes : List UInt8} (h : IsBlank bytes) :
    ∃ p, Utf8.encode p = bytes ∧ ∀ c ∈ p, Json.Cursor.isBlank c = true := by
  induction bytes with
  | nil => exact ⟨[], rfl, List.forall_mem_nil _⟩
  | cons b bytes ih =>
    rw [IsBlank, List.forall_mem_cons] at h
    obtain ⟨p, rfl, hp⟩ := ih h.2
    obtain ⟨c, hc, hblank⟩ : ∃ c, String.utf8EncodeChar c = [b] ∧ Json.Cursor.isBlank c = true := by
      rcases h.1 with rfl | rfl | rfl | rfl
      · exact ⟨' ', rfl, rfl⟩
      · exact ⟨'\n', rfl, rfl⟩
      · exact ⟨'\t', rfl, rfl⟩
      · exact ⟨'\r', rfl, rfl⟩
    refine ⟨c :: p, ?_, List.forall_mem_cons.mpr ⟨hblank, hp⟩⟩
    rw [Utf8.encode, List.flatMap_cons, hc]
    rfl

theorem exists_line_eq (e : Event) (time : String) : ∃ rest, e.line time = 0x7B :: rest := by
  rw [line, record, Json.chars]
  exact ⟨_, rfl⟩

theorem isLower_members (e : Event) (time : String) :
    ∀ m ∈ ("timestamp", Json.string time) :: e.members,
      ∃ c ∈ m.1.toList.head?, c.isLower = true := by
  cases e <;> simp [members, details, type]

theorem exists_isNamed_record {e : Event} (h : e.IsBounded) (time : String) :
    ∃ fields t, Value.IsNamed (e.record time) (.object fields) t := by
  obtain ⟨fields, hfields, -⟩ := exists_membersDenote h time
  have hperm : (Json.sortMembers (("timestamp", .string time) :: e.members)).Perm
      (("timestamp", .string time) :: e.members) := List.mergeSort_perm _ _
  obtain ⟨t, ht⟩ := Value.exists_isNamed hfields (fun hnil => by simp [hnil] at hperm)
    fun m hm => e.isLower_members time m (hperm.mem_iff.mp hm)
  exact ⟨fields, t, ht⟩

theorem readFields?_append_line {e : Event} (h : e.IsBounded) (time : String)
    (bytes : List UInt8) : readFields? (bytes ++ e.line time) =
      if IsBlank bytes then readFields? (e.line time) else none := by
  obtain ⟨fields, t, hnamed⟩ := exists_isNamed_record h time
  have hparse := Value.parse_append_chars hnamed
  have hread : readFields? (e.line time) = some fields := by
    have hline := (hparse [] _).mpr ⟨List.forall_mem_nil _, rfl⟩
    rw [List.nil_append] at hline
    simp [readFields?, line, Utf8.decode?_encode, hline]
  split_ifs with hblank
  · obtain ⟨p, rfl, hp⟩ := hblank.exists_encode
    have hjoined := (hparse p _).mpr ⟨hp, rfl⟩
    rw [hread, line, ← Utf8.encode_append]
    simp only [readFields?, Utf8.decode?_encode, Option.bind_eq_bind, Option.bind_some, hjoined]
  · cases hdecode : Utf8.decode? (bytes ++ e.line time) with
    | none => simp [readFields?, hdecode]
    | some s =>
      have hs := Utf8.decode?_eq_some_iff.mp hdecode
      obtain ⟨rest, hrest⟩ := e.exists_line_eq time
      obtain ⟨p, w, rfl, rfl, hw⟩ :=
        Utf8.exists_of_encode_eq_append (by decide) (hrest ▸ hs)
      obtain rfl : w = (e.record time).chars := Utf8.encode_injective (hw.trans hrest.symm)
      simp only [readFields?, hdecode, Option.bind_eq_bind, Option.bind_some]
      split
      next hobject => exact absurd (isBlank_encode ((hparse p _).mp hobject).1) hblank
      next => rfl

end Event

namespace Transcript

def bytesAt (files : FileTree) (place : List String) : List UInt8 :=
  match files.get? place with
  | some (.file bytes) => bytes
  | _ => []

/-- Each event has a line of its own behind the lines that a file had: its record. -/
def OwnLines (prior content : List UInt8) (events : List (String × Event)) : Prop :=
  ∃ lines last new, prior.splitOn 0x0A = lines ++ [last] ∧
    content.splitOn 0x0A = lines ++ new ++ [[]] ∧ List.Forall₂ IsRecord new events

variable {here place : List String} {path : String} {events : List (String × Event)} {d : Desk}

theorem openFile_spec {files files' : FileTree}
    (h : Transcript.openFile files here path = (files', some place)) :
    files'.place here path = .ok place ∧
      files'.get? place = some (.file (bytesAt files place)) := by
  rcases openFile_cases files here path with
    hopen | ⟨made, hmade, hopen | ⟨opened, p, hopened, hopen⟩⟩ <;> rw [hopen] at h
  · cases h
  · cases h
  · obtain ⟨rfl, hp⟩ := Prod.mk.inj h
    obtain rfl := Option.some.inj hp
    obtain ⟨hplace, ⟨bytes, hfile, rfl⟩ | ⟨hnothing, rfl⟩⟩ := FileTree.openFile_cases hopened
    · have hprior := FileTree.get?_of_makeDirectories hmade hfile
      refine ⟨hplace, ?_⟩
      rw [bytesAt, hprior]
      exact hfile
    · have hprior : files.get? p = none := by
        rw [Option.eq_none_iff_forall_ne_some]
        intro node hnode
        have hthere := (FileTree.makeDirectories_spec hmade).1 p node hnode
        rw [hnothing] at hthere
        cases hthere
      have hnil : p ≠ [] := by
        rintro rfl
        cases hnothing
      refine ⟨(FileTree.within_set hnothing (.file [])).keeps.place hplace, ?_⟩
      rw [bytesAt, hprior]
      exact FileTree.get?_set_self hnil _

theorem run_log (here : List String) (path : String) {bytes : List UInt8}
    (hwriter : d.writer = some place) (hbytes : d.files.get? place = some (.file bytes))
    (events : List (String × Event)) :
    let d' := d.run here path (events.map fun x => .log x.1 x.2)
    d.files.Keeps d'.files ∧ d'.files.get? place = some (.file (bytes ++ bytesOf events)) := by
  induction events generalizing d bytes with
  | nil => exact ⟨fun _ h => h, by rw [bytesOf, List.flatMap_nil, List.append_nil]; exact hbytes⟩
  | cons x events ih =>
    obtain ⟨hkeeps, hlogged⟩ := log_spec hbytes x.1 x.2
    have hact : d.act here path (.log x.1 x.2) =
        { d with files := Transcript.log d.files place x.1 x.2 } := by
      rw [Desk.act, hwriter]
    obtain ⟨hkeeps', hrest⟩ := ih (d := d.act here path (.log x.1 x.2))
      (by rw [hact]; exact hwriter) (by rw [hact]; exact hlogged)
    refine ⟨fun p hp => hkeeps' p (by rw [hact]; exact hkeeps p hp), ?_⟩
    rw [bytesOf, List.flatMap_cons, ← List.append_assoc]
    exact hrest

theorem readFile?_run (hopen : (d.act here path .openFile).writer = some place)
    (events : List (String × Event)) :
    (d.run here path (.openFile :: events.map fun x => .log x.1 x.2)).files.readFile? here path =
      some (bytesAt d.files place ++ bytesOf events) := by
  have hfiles : Transcript.openFile d.files here path =
      ((d.act here path .openFile).files, some place) := by
    rw [← hopen]
    rfl
  obtain ⟨hplace, hprior⟩ := openFile_spec hfiles
  obtain ⟨hkeeps, hcontent⟩ := run_log here path hopen hprior events
  exact FileTree.readFile?_eq_some (hkeeps.place hplace) hcontent

theorem exists_splitOn_append (xs : List UInt8) {ys : List UInt8} (h : 0x0A ∉ ys) :
    ∃ lines last, xs.splitOn 0x0A = lines ++ [last] ∧
      (xs ++ ys).splitOn 0x0A = lines ++ [last ++ ys] := by
  induction hn : xs.length using Nat.strong_induction_on generalizing xs with
  | h n ih =>
    by_cases hxs : 0x0A ∈ xs
    · obtain ⟨x, y, rfl, -⟩ := List.eq_append_cons_of_mem hxs
      obtain ⟨lines, last, hy, hyys⟩ := ih y.length (by simp [← hn]; omega) y rfl
      refine ⟨x.splitOn 0x0A ++ lines, last, ?_, ?_⟩
      · rw [List.splitOn_append_cons_self, hy, List.append_assoc]
      · rw [List.append_assoc, List.cons_append, List.splitOn_append_cons_self, hyys,
          List.append_assoc]
    · have hall : 0x0A ∉ xs ++ ys := by simp [hxs, h]
      exact ⟨[], xs, List.splitOn_eq_singleton hxs, List.splitOn_eq_singleton hall⟩

section Continued

variable {prior last : List UInt8} {lines : List (List UInt8)} {x : String × Event}
  {later : List (String × Event)}

theorem splitOn_append_of_not_mem {ys : List UInt8} (h : prior.splitOn 0x0A = lines ++ [last])
    (hys : 0x0A ∉ ys) : (prior ++ ys).splitOn 0x0A = lines ++ [last ++ ys] := by
  obtain ⟨lines', last', hprior, hjoined⟩ := exists_splitOn_append prior hys
  obtain ⟨rfl, hlast⟩ := List.append_inj' (h.symm.trans hprior) rfl
  rw [hjoined, List.singleton_inj.mp hlast]

theorem splitOn_append_bytesOf (h : prior.splitOn 0x0A = lines ++ [last]) (x : String × Event)
    (later : List (String × Event)) : (prior ++ bytesOf (x :: later)).splitOn 0x0A =
      lines ++ (last ++ x.2.line x.1) :: later.map (fun y => y.2.line y.1) ++ [[]] := by
  have hjoined := splitOn_append_of_not_mem h (x.2.newline_not_mem_line x.1)
  rw [bytesOf, List.flatMap_cons, Event.recordBytes_eq, List.append_assoc, List.singleton_append,
    ← List.append_assoc, List.splitOn_append_cons_self, hjoined, ← bytesOf, splitOn_bytesOf]
  simp

theorem ownLines_append_bytesOf_iff (h : prior.splitOn 0x0A = lines ++ [last])
    (hbounded : ∀ y ∈ x :: later, y.2.IsBounded) :
    OwnLines prior (prior ++ bytesOf (x :: later)) (x :: later) ↔ Event.IsBlank last := by
  have hsplit := splitOn_append_bytesOf h x later
  rw [List.forall_mem_cons] at hbounded
  have hfirst := Event.readFields?_append_line hbounded.1 x.1 last
  constructor
  · rintro ⟨lines', last', new, hlines, hnew, hrecords⟩
    obtain ⟨rfl, -⟩ := List.append_inj' (h.symm.trans hlines) rfl
    have hsame := List.append_cancel_right (hsplit.symm.trans hnew)
    rw [← List.append_cancel_left hsame] at hrecords
    cases hrecords with
    | cons hrecord _ =>
      obtain ⟨fields, hread, -⟩ := hrecord
      by_contra hblank
      rw [hfirst, if_neg hblank] at hread
      cases hread
  · intro hblank
    have hrecord : IsRecord (last ++ x.2.line x.1) x := by
      rw [IsRecord, hfirst, if_pos hblank]
      exact isRecord_line hbounded.1 x.1
    exact ⟨lines, last, _, h, hsplit, .cons hrecord (forall₂_isRecord hbounded.2)⟩

end Continued

/-- Whatever is in the file of a transcript that is opened stays, and records follow it. Those of
all events but the first are lines of their own. The first record is on the line that the file had
left without an end: on a line of its own if there was nothing there but blanks, and otherwise lost,
with what was there. -/
theorem run_continued (hopen : (d.act here path .openFile).writer = some place)
    {x : String × Event} {later : List (String × Event)}
    (hbounded : ∀ y ∈ x :: later, y.2.IsBounded) :
    let d' := d.run here path (.openFile :: (x :: later).map fun y => .log y.1 y.2)
    let prior := bytesAt d.files place
    ∃ content, d'.files.readFile? here path = some content ∧ prior <+: content ∧
      ∃ lines last, prior.splitOn 0x0A = lines ++ [last] ∧
        content.splitOn 0x0A =
          lines ++ (last ++ x.2.line x.1) :: later.map (fun y => y.2.line y.1) ++ [[]] ∧
        List.Forall₂ IsRecord (later.map fun y => y.2.line y.1) later ∧
        (OwnLines prior content (x :: later) ↔ Event.IsBlank last) ∧
        (¬Event.IsBlank last → Event.readFields? (last ++ x.2.line x.1) = none) := by
  intro d' prior
  obtain ⟨lines, last, hlines, -⟩ := exists_splitOn_append prior List.not_mem_nil
  have hown := ownLines_append_bytesOf_iff hlines hbounded
  rw [List.forall_mem_cons] at hbounded
  have hfirst := Event.readFields?_append_line hbounded.1 x.1 last
  refine ⟨prior ++ bytesOf (x :: later), readFile?_run hopen _, List.prefix_append _ _, lines, last,
    hlines, splitOn_append_bytesOf hlines x later, forall₂_isRecord hbounded.2, hown, ?_⟩
  intro hblank
  rw [hfirst, if_neg hblank]

def endingIn (s : String) : Desk :=
  ⟨({} : FileTree).addFile ["t.jsonl"] (Utf8.encode s.toList), none⟩

theorem opens_endingIn (s : String) :
    ((endingIn s).act [] "t.jsonl" .openFile).writer = some ["t.jsonl"] ∧
      bytesAt (endingIn s).files ["t.jsonl"] = Utf8.encode s.toList :=
  ⟨rfl, rfl⟩

theorem run_continued_blank :
    let d := endingIn "not JSON\n\t "
    let d' := d.run [] "t.jsonl" [.openFile, .log "0" (.discarded "a"), .log "1" forgery]
    ∃ content, d'.files.readFile? [] "t.jsonl" = some content ∧
      OwnLines (Utf8.encode "not JSON\n\t ".toList) content
        [("0", .discarded "a"), ("1", forgery)] := by
  obtain ⟨hopen, hprior⟩ := opens_endingIn "not JSON\n\t "
  have hbounded : ∀ y ∈ [("0", Event.discarded "a"), ("1", forgery)], y.2.IsBounded := by
    simp [Event.IsBounded, forgery]
  obtain ⟨content, hcontent, -, lines, last, hlines, -, -, hown, -⟩ :=
    run_continued hopen hbounded
  rw [hprior] at hown hlines
  have hsplit : (Utf8.encode "not JSON\n\t ".toList).splitOn 0x0A =
      [Utf8.encode "not JSON".toList] ++ [Utf8.encode "\t ".toList] := by decide +kernel
  obtain ⟨-, hlast⟩ := List.append_inj' (hlines.symm.trans hsplit) rfl
  obtain rfl : last = Utf8.encode "\t ".toList := List.singleton_inj.mp hlast
  exact ⟨content, hcontent, hown.mpr (by decide +kernel)⟩

def torn : String :=
  "\x7b\"peer\":\"a\""

theorem not_ownLines_torn :
    let d' := (endingIn torn).run [] "t.jsonl" [.openFile, .log "0" (.discarded "a")]
    bytesAt (endingIn torn).files ["t.jsonl"] = Utf8.encode torn.toList ∧
      ∃ content, d'.files.readFile? [] "t.jsonl" = some content ∧
        ¬OwnLines (Utf8.encode torn.toList) content [("0", .discarded "a")] := by
  obtain ⟨hopen, hprior⟩ := opens_endingIn torn
  have hbounded : ∀ y ∈ [("0", Event.discarded "a")], y.2.IsBounded := by
    simp [Event.IsBounded]
  have hrun := readFile?_run hopen [("0", Event.discarded "a")]
  rw [hprior] at hrun
  refine ⟨hprior, _, hrun, ?_⟩
  have hsplit : (Utf8.encode torn.toList).splitOn 0x0A = [] ++ [Utf8.encode torn.toList] := by
    decide +kernel
  rw [ownLines_append_bytesOf_iff hsplit hbounded]
  decide +kernel

end Transcript

end PromptRelay
