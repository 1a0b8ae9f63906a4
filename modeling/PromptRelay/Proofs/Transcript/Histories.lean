import PromptRelay.Proofs.Files.Growth
import PromptRelay.Proofs.Transcript.Records

namespace PromptRelay.Transcript

inductive Action where
  | openFile
  | log (time : String) (e : Event)
  | close

structure Desk where
  files : FileTree
  writer : Option (List String) := none

namespace Desk

variable (here : List String) (path : String)

def act (d : Desk) : Action → Desk
  | .openFile =>
    ⟨(Transcript.openFile d.files here path).1, (Transcript.openFile d.files here path).2⟩
  | .log time e =>
    match d.writer with
    | some place => { d with files := Transcript.log d.files place time e }
    | none => d
  | .close => { d with writer := none }

def run (d : Desk) (actions : List Action) : Desk :=
  actions.foldl (act here path) d

def logged (d : Desk) : List Action → List (String × Event)
  | [] => []
  | .log time e :: rest =>
    (if d.writer.isSome then [(time, e)] else []) ++ logged (d.act here path (.log time e)) rest
  | action :: rest => logged (d.act here path action) rest

end Desk

def IsFresh (files : FileTree) (here : List String) (path : String) : Prop :=
  files.readFile? here path = none ∧
    ∀ made, files.makeDirectories (if Path.isAbsolute path then [] else here)
      (Path.names path).dropLast = .ok made → made.readFile? here path = none

def bytesOf (events : List (String × Event)) : List UInt8 :=
  events.flatMap fun x => x.2.recordBytes x.1

def readEvents? (bytes : List UInt8) : Option (List Event) :=
  (bytes.splitOn 0x0A).dropLast.mapM fun line => Event.readFields? line >>= Event.ofFields?

inductive Holds (here : List String) (path : String) (events : List (String × Event)) :
    Desk → Prop
  | fresh {files : FileTree} (h : IsFresh files here path) (hnone : events = []) :
      Holds here path events ⟨files, none⟩
  | written {d : Desk} {place : List String} (hplace : d.files.place here path = .ok place)
      (hbytes : d.files.get? place = some (.file (bytesOf events)))
      (hwriter : ∀ p, d.writer = some p → p = place) : Holds here path events d

variable {here : List String} {path : String} {events : List (String × Event)} {d : Desk}

theorem openFile_cases (files : FileTree) (here : List String) (path : String) :
    Transcript.openFile files here path = (files, none) ∨
      ∃ made, files.makeDirectories (if Path.isAbsolute path then [] else here)
          (Path.names path).dropLast = .ok made ∧
        (Transcript.openFile files here path = (made, none) ∨
          ∃ files' place, made.openFile here path = .ok (files', place) ∧
            Transcript.openFile files here path = (files', some place)) := by
  unfold Transcript.openFile
  split
  next => exact .inl rfl
  next made hmade =>
    refine .inr ⟨made, hmade, ?_⟩
    split
    next => exact .inl rfl
    next files' place hopened => exact .inr ⟨files', place, hopened, rfl⟩

theorem IsFresh.made {files made : FileTree} (h : IsFresh files here path)
    (hmade : files.makeDirectories (if Path.isAbsolute path then [] else here)
      (Path.names path).dropLast = .ok made) : IsFresh made here path := by
  refine ⟨h.2 made hmade, ?_⟩
  intro again hagain
  rw [(FileTree.makeDirectories_spec hmade).2 made fun _ h => h] at hagain
  obtain rfl := Except.ok.inj hagain
  exact h.2 made hmade

theorem Holds.opened (h : Holds here path events d) :
    Holds here path events (d.act here path .openFile) := by
  unfold Desk.act
  rcases openFile_cases d.files here path with
    hopen | ⟨made, hmade, hopen | ⟨files', place, hopened, hopen⟩⟩ <;> rw [hopen]
  · cases h with
    | fresh h hnone => exact .fresh h hnone
    | written hplace hbytes hwriter => exact .written hplace hbytes nofun
  · cases h with
    | fresh h hnone => exact .fresh (h.made hmade) hnone
    | written hplace hbytes hwriter =>
      have hwithin := (FileTree.makeDirectories_spec hmade).1
      exact .written (hwithin.keeps.place hplace) (hwithin _ _ hbytes) nofun
  · obtain ⟨hplace, hcases⟩ := FileTree.openFile_cases hopened
    cases h with
    | fresh h hnone =>
      rcases hcases with ⟨bytes, hfile, rfl⟩ | ⟨hnothing, rfl⟩
      · have hread := h.2 _ hmade
        rw [FileTree.readFile?_eq_some hplace hfile] at hread
        cases hread
      · have hnil : place ≠ [] := by
          rintro rfl
          cases hnothing
        have hkeeps := (FileTree.within_set hnothing (.file [])).keeps
        refine .written (hkeeps.place hplace) ?_ (by simp)
        rw [hnone]
        exact FileTree.get?_set_self hnil _
    | written hplace' hbytes hwriter =>
      have hwithin := (FileTree.makeDirectories_spec hmade).1
      have hsame := (hwithin.keeps.place hplace').symm.trans hplace
      obtain rfl := Except.ok.inj hsame
      have hthere := hwithin _ _ hbytes
      rcases hcases with ⟨bytes, hfile, rfl⟩ | ⟨hnothing, -⟩
      · exact .written hplace hthere (by simp)
      · rw [hnothing] at hthere
        cases hthere

theorem log_spec {files : FileTree} {place : List String} {bytes : List UInt8}
    (h : files.get? place = some (.file bytes)) (time : String) (e : Event) :
    files.Keeps (Transcript.log files place time e) ∧
      (Transcript.log files place time e).get? place =
        some (.file (bytes ++ e.recordBytes time)) := by
  have hnil : place ≠ [] := by
    rintro rfl
    cases h
  rw [Transcript.log, FileTree.append, h]
  exact ⟨FileTree.keeps_set (by simp [h]) _, FileTree.get?_set_self hnil _⟩

theorem Holds.logged (h : Holds here path events d) (time : String) (e : Event) :
    Holds here path (events ++ if d.writer.isSome then [(time, e)] else [])
      (d.act here path (.log time e)) := by
  cases h with
  | fresh h hnone => exact .fresh h (by simpa using hnone)
  | @written d place hplace hbytes hwriter =>
    unfold Desk.act
    cases hd : d.writer with
    | none =>
      simp only [Option.isSome_none, Bool.false_eq_true, if_false, List.append_nil]
      exact .written hplace hbytes hwriter
    | some p =>
      obtain rfl := hwriter p hd
      obtain ⟨hkeeps, hlogged⟩ := log_spec hbytes time e
      refine .written (hkeeps.place hplace) ?_ ?_
      · simp [hlogged, bytesOf]
      · intro q hq
        exact (Option.some.inj hq).symm

theorem Holds.closed (h : Holds here path events d) :
    Holds here path events (d.act here path .close) := by
  cases h with
  | fresh h hnone => exact .fresh h hnone
  | written hplace hbytes hwriter => exact .written hplace hbytes nofun

theorem Holds.run (h : Holds here path events d) (actions : List Action) :
    Holds here path (events ++ d.logged here path actions) (d.run here path actions) := by
  induction actions generalizing events d with
  | nil =>
    rw [Desk.logged, List.append_nil]
    exact h
  | cons action actions ih =>
    cases action with
    | openFile => exact ih h.opened
    | close => exact ih h.closed
    | log time e =>
      rw [Desk.logged, ← List.append_assoc]
      exact ih (h.logged time e)

theorem Holds.bytes (h : Holds here path events d) :
    (d.files.readFile? here path).getD [] = bytesOf events := by
  cases h with
  | fresh h hnone =>
    rw [h.1, hnone]
    rfl
  | written hplace hbytes hwriter =>
    rw [FileTree.readFile?_eq_some hplace hbytes]
    rfl

theorem splitOn_bytesOf (events : List (String × Event)) :
    (bytesOf events).splitOn 0x0A = events.map (fun x => x.2.line x.1) ++ [[]] := by
  have hlines : ∀ line ∈ events.map (fun x => x.2.line x.1), 0x0A ∉ line := by
    intro line hline
    obtain ⟨x, -, rfl⟩ := List.mem_map.mp hline
    exact x.2.newline_not_mem_line x.1
  rw [← splitOn_lines hlines, List.flatMap_map]
  rfl

def IsRecord (line : List UInt8) (x : String × Event) : Prop :=
  ∃ fields, Event.readFields? line = some fields ∧ (fields.map Prod.fst).Nodup ∧
    fields.Perm (("timestamp", .string x.1) :: x.2.fields) ∧ Event.ofFields? fields = some x.2

theorem isRecord_line {e : Event} (h : e.IsBounded) (time : String) :
    IsRecord (e.line time) (time, e) := by
  obtain ⟨fields, hread, hperm⟩ := Event.readFields?_line h time
  refine ⟨fields, hread, ?_, hperm, Event.ofFields?_of_perm hperm⟩
  exact (hperm.map Prod.fst).nodup_iff.mpr (e.fields_nodup time)

theorem forall₂_isRecord (h : ∀ x ∈ events, x.2.IsBounded) :
    List.Forall₂ IsRecord (events.map fun x => x.2.line x.1) events := by
  induction events with
  | nil => exact .nil
  | cons x events ih =>
    rw [List.forall_mem_cons] at h
    exact .cons (isRecord_line h.1 x.1) (ih h.2)

theorem mapM_ofFields? {lines : List (List UInt8)} (h : List.Forall₂ IsRecord lines events) :
    lines.mapM (fun line => Event.readFields? line >>= Event.ofFields?) =
      some (events.map Prod.snd) := by
  induction h with
  | nil => rfl
  | cons hfirst hrest ih =>
    obtain ⟨fields, hread, -, -, hevent⟩ := hfirst
    rw [List.mapM_cons, hread, ih]
    simp [hevent]

theorem mem_logged {x : String × Event} {actions : List Action}
    (h : x ∈ d.logged here path actions) : .log x.1 x.2 ∈ actions := by
  induction actions generalizing d with
  | nil => cases h
  | cons action actions ih =>
    cases action with
    | log time e =>
      rw [Desk.logged, List.mem_append] at h
      rcases h with hfirst | hrest
      · have hx : x = (time, e) := by
          split_ifs at hfirst
          · exact List.mem_singleton.mp hfirst
          · cases hfirst
        rw [hx]
        exact List.mem_cons_self
      · exact List.mem_cons_of_mem _ (ih hrest)
    | openFile => exact List.mem_cons_of_mem _ (ih h)
    | close => exact List.mem_cons_of_mem _ (ih h)

theorem run_transcript {files : FileTree} (hfresh : IsFresh files here path)
    {actions : List Action} (hbounded : ∀ time e, .log time e ∈ actions → e.IsBounded) :
    let d : Desk := ⟨files, none⟩
    let bytes := ((d.run here path actions).files.readFile? here path).getD []
    let events := d.logged here path actions
    (bytes = [] ∨ bytes.getLast? = some 0x0A) ∧
      (∃ lines, bytes.splitOn 0x0A = lines ++ [[]] ∧ List.Forall₂ IsRecord lines events) ∧
      readEvents? bytes = some (events.map Prod.snd) := by
  intro d bytes events
  have hholds : Holds here path events (d.run here path actions) := by
    rw [← List.nil_append events]
    exact Holds.run (.fresh hfresh rfl) actions
  have hbytes : bytes = bytesOf events := hholds.bytes
  have hevents : ∀ x ∈ events, x.2.IsBounded := fun x hx => hbounded x.1 x.2 (mem_logged hx)
  have hrecords := forall₂_isRecord hevents
  have hsplit := splitOn_bytesOf events
  rw [hbytes]
  refine ⟨?_, ⟨_, hsplit, hrecords⟩, ?_⟩
  · rcases List.eq_nil_or_concat events with hnil | ⟨before, x, hlast⟩
    · left
      rw [hnil]
      rfl
    · right
      simp [hlast, bytesOf, Event.recordBytes_eq]
  · rw [readEvents?, hsplit, List.dropLast_concat]
    exact mapM_ofFields? hrecords

def forgery : Event :=
  .request "a" "\"\x7d\n\x7b\"type\":\"fault\",\"peer\":\"b\",\"cause\":\"\\\x00\"\x7d"

def reopened : List Action :=
  [.log "0" (.discarded "a"), .openFile, .log "1" forgery, .close, .log "2" (.discarded "a"),
    .openFile, .openFile, .log "3" (.reply "a" "yes" (Nat.pow 2 64 - 1))]

theorem run_reopened :
    let d := (⟨{}, none⟩ : Desk).run [] "t.jsonl" reopened
    readEvents? ((d.files.readFile? [] "t.jsonl").getD []) =
      some [forgery, .reply "a" "yes" (Nat.pow 2 64 - 1)] := by
  have hfresh : IsFresh {} [] "t.jsonl" := by
    have hnames : (Path.names "t.jsonl").dropLast = [] := by decide +kernel
    have hnone : ({} : FileTree).readFile? [] "t.jsonl" = none := by decide +kernel
    refine ⟨hnone, ?_⟩
    intro made hmade
    rw [hnames] at hmade
    obtain rfl := Except.ok.inj hmade
    exact hnone
  have hbounded : ∀ time e, .log time e ∈ reopened → e.IsBounded := by
    intro time e he
    simp only [reopened, List.mem_cons, List.not_mem_nil, or_false, Action.log.injEq,
      reduceCtorEq, false_or] at he
    rcases he with ⟨-, rfl⟩ | ⟨-, rfl⟩ | ⟨-, rfl⟩ | ⟨-, rfl⟩
    · trivial
    · trivial
    · trivial
    · show Nat.pow 2 64 - 1 < Nat.pow 2 64
      decide
  have hlogged : (⟨{}, none⟩ : Desk).logged [] "t.jsonl" reopened =
      [("1", forgery), ("3", .reply "a" "yes" (Nat.pow 2 64 - 1))] := by decide +kernel
  have hevents := (run_transcript hfresh hbounded).2.2
  rw [hlogged] at hevents
  exact hevents

end PromptRelay.Transcript
