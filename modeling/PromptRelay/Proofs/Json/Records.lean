import PromptRelay.Json.Shape
import PromptRelay.Proofs.Except
import PromptRelay.Proofs.Members

namespace PromptRelay.Json

def Yields (read : Reader) (p : Json → Prop) : Prop :=
  ∀ ⦃k v k'⦄, read k = .ok (v, k') → p v

structure Slot.Yields (slot : Slot) (p : Json → Prop) : Prop where
  read : Json.Yields slot.read p
  default : ∀ v, slot.default = some v → p v

variable {read : Reader} {p : Json → Prop} {k k' : Cursor}

theorem yields_string : Yields (Shape.read .string) fun v => ∃ s, v = .string s := by
  intro k v k' h
  rw [Shape.read] at h
  obtain ⟨⟨s, k₁⟩, -, h⟩ := exists_ok_of_bind h
  obtain ⟨rfl, -⟩ := Prod.mk.inj (Except.ok.inj h)
  exact ⟨s, rfl⟩

theorem yields_option {shape : Shape} (h : Yields shape.read p) :
    Yields (Shape.read (.option shape)) fun v => v = .null ∨ p v := by
  intro k v k' hread
  rw [Shape.read] at hread
  dsimp only at hread
  split at hread
  · obtain ⟨k₁, -, hread⟩ := exists_ok_of_bind hread
    obtain ⟨rfl, -⟩ := Prod.mk.inj (Except.ok.inj hread)
    exact .inl rfl
  · exact .inr (h hread)

theorem forall_mem_readItems (h : Yields read p) {bound : ℕ} {first : Bool} {items : List Json}
    (hread : readItems read bound first k = .ok (items, k')) : ∀ v ∈ items, p v := by
  induction bound generalizing first k k' items with
  | zero => cases hread
  | succ bound ih =>
    rw [readItems] at hread
    obtain ⟨⟨more, k₁⟩, -, hread⟩ := exists_ok_of_bind hread
    dsimp only at hread
    split at hread
    · obtain ⟨rfl, -⟩ := Prod.mk.inj (Except.ok.inj hread)
      exact List.forall_mem_nil _
    · obtain ⟨⟨v, k₂⟩, hitem, hread⟩ := exists_ok_of_bind hread
      obtain ⟨⟨rest, k₃⟩, hrest, hread⟩ := exists_ok_of_bind hread
      obtain ⟨rfl, -⟩ := Prod.mk.inj (Except.ok.inj hread)
      exact List.forall_mem_cons.mpr ⟨h hitem, ih hrest⟩

theorem yields_list {shape : Shape} (h : Yields shape.read p) :
    Yields (Shape.read (.list shape)) fun v => ∃ items, v = .array items ∧ ∀ x ∈ items, p x := by
  intro k v k' hread
  rw [Shape.read] at hread
  obtain ⟨k₁, -, hread⟩ := exists_ok_of_bind hread
  split at hread
  · cases hread
  · obtain ⟨⟨items, k₂⟩, hitems, hread⟩ := exists_ok_of_bind hread
    obtain ⟨rfl, -⟩ := Prod.mk.inj (Except.ok.inj hread)
    exact ⟨items, rfl, forall_mem_readItems h hitems⟩

section

variable {P : String → Json → Prop} {slots : List Slot} {type : String}
  {members found : List (String × Json)}

def Fill (P : String → Json → Prop) (slots : List Slot) (members : List (String × Json)) : Prop :=
  members.map Prod.fst = slots.map Slot.name ∧ ∀ m ∈ members, P m.1 m.2

theorem Fill.cons {slot : Slot} {v : Json} (hv : P slot.name v) (h : Fill P slots members) :
    Fill P (slot :: slots) ((slot.name, v) :: members) :=
  ⟨congrArg (slot.name :: ·) h.1, List.forall_mem_cons.mpr ⟨hv, h.2⟩⟩

theorem fill_readSlots (h : ∀ slot ∈ slots, slot.Yields (P slot.name)) {size n : ℕ}
    (hread : readSlots type size n slots k = .ok (members, k')) : Fill P slots members := by
  induction slots generalizing n k k' members with
  | nil =>
    rw [readSlots] at hread
    obtain ⟨k₁, -, hread⟩ := exists_ok_of_bind hread
    obtain ⟨rfl, -⟩ := Prod.mk.inj (Except.ok.inj hread)
    exact ⟨rfl, List.forall_mem_nil _⟩
  | cons slot slots ih =>
    rw [List.forall_mem_cons] at h
    rw [readSlots] at hread
    obtain ⟨⟨more, k₁⟩, -, hread⟩ := exists_ok_of_bind hread
    dsimp only at hread
    have hrest {v : Json} {k₂ : Cursor} (hv : P slot.name v)
        (hread : (readSlots type size (n + 1) slots k₂ >>= fun rest =>
          return ((slot.name, v) :: rest.1, rest.2)) = Except.ok (members, k')) :
        Fill P (slot :: slots) members := by
      obtain ⟨⟨rest, k₃⟩, hrest, hread⟩ := exists_ok_of_bind hread
      obtain ⟨rfl, -⟩ := Prod.mk.inj (Except.ok.inj hread)
      exact (ih h.2 hrest).cons hv
    split at hread
    · obtain ⟨⟨v, k₂⟩, hv, hread⟩ := exists_ok_of_bind hread
      exact hrest (h.1.read hv) hread
    · split at hread
      next v hdefault => exact hrest (h.1.default v hdefault) hread
      next => cases hread

theorem forall_mem_readMembers (h : ∀ slot ∈ slots, slot.Yields (P slot.name)) {bound : ℕ}
    {first : Bool} (hfound : ∀ m ∈ found, P m.1 m.2)
    (hread : readMembers slots bound first found k = .ok (members, k')) :
    ∀ m ∈ members, P m.1 m.2 := by
  induction bound generalizing first found k k' with
  | zero => cases hread
  | succ bound ih =>
    rw [readMembers] at hread
    obtain ⟨⟨more, k₁⟩, -, hread⟩ := exists_ok_of_bind hread
    dsimp only at hread
    split at hread
    · obtain ⟨rfl, -⟩ := Prod.mk.inj (Except.ok.inj hread)
      exact hfound
    · obtain ⟨⟨name, k₂⟩, -, hread⟩ := exists_ok_of_bind hread
      dsimp only at hread
      split at hread
      next =>
        obtain ⟨k₃, -, hread⟩ := exists_ok_of_bind hread
        obtain ⟨k₄, -, hread⟩ := exists_ok_of_bind hread
        exact ih hfound hread
      next slot hslot =>
        split at hread
        · cases hread
        · obtain ⟨k₃, -, hread⟩ := exists_ok_of_bind hread
          obtain ⟨⟨v, k₄⟩, hv, hread⟩ := exists_ok_of_bind hread
          have hname : slot.name = name := by simpa using List.find?_some hslot
          have hslots := h slot (List.mem_of_find?_eq_some hslot)
          refine ih ?_ hread
          rw [List.forall_mem_cons]
          exact ⟨hname ▸ hslots.read hv, hfound⟩

theorem fill_fill (h : ∀ slot ∈ slots, slot.Yields (P slot.name))
    (hfound : ∀ m ∈ found, P m.1 m.2) (hread : fill found k slots = .ok members) :
    Fill P slots members := by
  induction slots generalizing members with
  | nil =>
    obtain rfl := Except.ok.inj hread
    exact ⟨rfl, List.forall_mem_nil _⟩
  | cons slot slots ih =>
    rw [List.forall_mem_cons] at h
    have hrest {v : Json} (hv : P slot.name v)
        (hread : (do
          let vs ← fill found k slots
          return (slot.name, v) :: vs) = Except.ok members) : Fill P (slot :: slots) members := by
      obtain ⟨rest, hrest, hread⟩ := exists_ok_of_bind hread
      obtain rfl := Except.ok.inj hread
      exact (ih h.2 hrest).cons hv
    rw [fill] at hread
    split at hread
    next v hlookup => exact hrest (hfound _ (mem_of_lookup hlookup)) hread
    next v hlookup hdefault => exact hrest (h.1.default _ hdefault) hread
    next => cases hread

theorem yields_record (h : ∀ slot ∈ slots, slot.Yields (P slot.name)) :
    Yields (readRecord type slots)
      fun v => ∃ members, v = .object members ∧ Fill P slots members := by
  intro k v k' hread
  rw [readRecord] at hread
  obtain ⟨k₁, -, hread⟩ := exists_ok_of_bind hread
  split at hread
  · obtain ⟨⟨members, k₂⟩, hmembers, hread⟩ := exists_ok_of_bind hread
    obtain ⟨rfl, -⟩ := Prod.mk.inj (Except.ok.inj hread)
    exact ⟨members, rfl, fill_readSlots h hmembers⟩
  · split at hread
    · obtain ⟨⟨found, k₂⟩, hfound, hread⟩ := exists_ok_of_bind hread
      obtain ⟨members, hmembers, hread⟩ := exists_ok_of_bind hread
      obtain ⟨rfl, -⟩ := Prod.mk.inj (Except.ok.inj hread)
      exact ⟨members, rfl,
        fill_fill h (forall_mem_readMembers h (List.forall_mem_nil _) hfound) hmembers⟩
    · cases hread

theorem yields_singleton {name : String} {shape : Shape} {default : Option Json}
    (hread : Yields shape.read p) (hdefault : ∀ v, default = some v → p v) :
    Yields (Shape.read (.record type [(name, shape, default)])) fun v =>
      ∃ x, v = .object [(name, x)] ∧ p x := by
  intro k v k' h
  have hslots : ∀ slot ∈ Shape.slots [(name, shape, default)], slot.Yields p := by
    simpa [Shape.slots] using ⟨hread, hdefault⟩
  rw [Shape.read] at h
  obtain ⟨members, rfl, hnames, hmembers⟩ := yields_record (P := fun _ => p) hslots h
  obtain ⟨⟨n, x⟩, rfl, hn⟩ := List.map_eq_singleton_iff.mp hnames
  obtain rfl : n = name := hn
  exact ⟨x, rfl, hmembers _ List.mem_cons_self⟩

end

theorem Yields.parse {shape : Shape} (h : Yields shape.read p) {s : String} {v : Json}
    (hparse : shape.parse s = .ok v) : p v := by
  rw [Shape.parse] at hparse
  obtain ⟨⟨x, k⟩, hread, hparse⟩ := exists_ok_of_bind hparse
  dsimp only at hparse
  split at hparse
  · obtain rfl := Except.ok.inj hparse
    exact h hread
  · cases hparse

end PromptRelay.Json
