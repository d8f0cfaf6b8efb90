import ServiceAnnotations.Text.Bytes

/-! # Maps from byte strings, in ascending order of keys

Two maps with the same entries are equal, whatever the order in which the entries came. What an
operation does is said through `get?`. -/
namespace ServiceAnnotations

/-- A map whose keys are byte strings. -/
@[ext]
structure ByteMap (α : Type) where
  entries : List (Bytes × α)
  ascending : entries.Pairwise fun x y => x.1 < y.1

namespace ByteMap
variable {α : Type}

/-- Puts `f` of the present value, if any, at a key. -/
def alterEntries (k : Bytes) (f : Option α → α) : List (Bytes × α) → List (Bytes × α)
  | [] => [(k, f none)]
  | (j, a) :: rest =>
    if k < j then (k, f none) :: (j, a) :: rest
    else if k = j then (k, f (some a)) :: rest
    else (j, a) :: alterEntries k f rest

theorem mem_keys_alterEntries {k j : Bytes} {f : Option α → α} {l : List (Bytes × α)} :
    j ∈ (alterEntries k f l).map Prod.fst ↔ j = k ∨ j ∈ l.map Prod.fst := by
  induction l with
  | nil => simp [alterEntries]
  | cons x rest ih =>
    obtain ⟨i, a⟩ := x
    unfold alterEntries
    split
    · simp
    · split
      · simp_all
      · simp only [List.map_cons, List.mem_cons, ih]
        constructor <;> (rintro (h | h | h) <;> simp [h])

private theorem lt_of_ne_of_not_lt {a b : Bytes} (h : ¬ a < b) (k : a ≠ b) : b < a := by
  rcases List.le_total a b with h' | h'
  · exact absurd (List.le_antisymm h' (List.not_lt.1 h)) k
  · refine Decidable.byContradiction fun hba => k ?_
    exact List.le_antisymm (List.not_lt.1 hba) h'

theorem ascending_alterEntries {k : Bytes} {f : Option α → α} {l : List (Bytes × α)}
    (h : l.Pairwise fun x y => x.1 < y.1) : (alterEntries k f l).Pairwise fun x y => x.1 < y.1 := by
  induction l with
  | nil => simp [alterEntries]
  | cons x rest ih =>
    obtain ⟨j, a⟩ := x
    have hrest := List.pairwise_cons.1 h
    unfold alterEntries
    split
    · rename_i hkj
      refine List.pairwise_cons.2 ⟨?_, h⟩
      intro y hy
      rcases List.mem_cons.1 hy with rfl | hy
      · exact hkj
      · exact List.lt_trans hkj (hrest.1 y hy)
    · split
      · rename_i hkj
        subst hkj
        exact List.pairwise_cons.2 hrest
      · rename_i h1 h2
        refine List.pairwise_cons.2 ⟨?_, ih hrest.2⟩
        intro y hy
        have hy' : y.1 ∈ (alterEntries k f rest).map Prod.fst := List.mem_map_of_mem hy
        rcases mem_keys_alterEntries.1 hy' with hk | hk
        · rw [hk]
          exact lt_of_ne_of_not_lt h1 h2
        · obtain ⟨z, hz, hzy⟩ := List.mem_map.1 hk
          rw [← hzy]
          exact hrest.1 z hz

private theorem find?_alterEntries (k j : Bytes) (f : Option α → α) {l : List (Bytes × α)}
    (h : l.Pairwise fun x y => x.1 < y.1) :
    ((alterEntries k f l).find? (·.1 = j)).map Prod.snd =
      if j = k then some (f ((l.find? (·.1 = k)).map Prod.snd))
      else (l.find? (·.1 = j)).map Prod.snd := by
  induction l with
  | nil =>
    by_cases hjk : j = k
    · simp [alterEntries, hjk]
    · simp [alterEntries, hjk, Ne.symm hjk]
  | cons x rest ih =>
    obtain ⟨i, a⟩ := x
    have hrest := List.pairwise_cons.1 h
    unfold alterEntries
    split
    · rename_i hki
      have hnone : ((i, a) :: rest).find? (·.1 = k) = none := by
        rw [List.find?_eq_none]
        intro y hy hyk
        have hyk : y.1 = k := by simpa using hyk
        rcases List.mem_cons.1 hy with rfl | hy
        · exact List.lt_irrefl _ (hyk ▸ hki)
        · exact List.lt_irrefl _ (hyk ▸ List.lt_trans hki (hrest.1 y hy))
      by_cases hjk : j = k
      · subst hjk
        simp [hnone]
      · simp [hjk, Ne.symm hjk, List.find?_cons]
    · split
      · rename_i hki
        subst hki
        by_cases hjk : j = k
        · simp [hjk]
        · simp [hjk, Ne.symm hjk]
      · rename_i h1 h2
        by_cases hij : i = j
        · subst hij
          simp [Ne.symm h2]
        · by_cases hjk : j = k
          · subst hjk
            simpa [List.find?_cons, hij] using ih hrest.2
          · simpa [List.find?_cons, hij, hjk, Ne.symm h2] using ih hrest.2

def empty : ByteMap α := ⟨[], .nil⟩

instance : EmptyCollection (ByteMap α) := ⟨empty⟩
instance : Inhabited (ByteMap α) := ⟨empty⟩

/-- Puts `f` of the present value, if any, at a key. -/
def alter (m : ByteMap α) (k : Bytes) (f : Option α → α) : ByteMap α :=
  ⟨alterEntries k f m.entries, ascending_alterEntries m.ascending⟩

/-- Puts a value at a key in place of what was there. -/
def insert (m : ByteMap α) (k : Bytes) (a : α) : ByteMap α := m.alter k fun _ => a

def get? (m : ByteMap α) (k : Bytes) : Option α := (m.entries.find? (·.1 = k)).map Prod.snd

def contains (m : ByteMap α) (k : Bytes) : Bool := (m.get? k).isSome

/-- Only the entries whose keys satisfy `p`. -/
def filterKeys (m : ByteMap α) (p : Bytes → Bool) : ByteMap α :=
  ⟨m.entries.filter fun e => p e.1, m.ascending.filter _⟩

def keys (m : ByteMap α) : List Bytes := m.entries.map Prod.fst

def size (m : ByteMap α) : Nat := m.entries.length

@[simp] theorem get?_empty (k : Bytes) : (∅ : ByteMap α).get? k = none := rfl

theorem get?_alter (m : ByteMap α) (k j : Bytes) (f : Option α → α) :
    (m.alter k f).get? j = if j = k then some (f (m.get? k)) else m.get? j :=
  find?_alterEntries k j f m.ascending

theorem get?_insert (m : ByteMap α) (k j : Bytes) (a : α) :
    (m.insert k a).get? j = if j = k then some a else m.get? j :=
  m.get?_alter k j fun _ => a

theorem mem_keys_alter {m : ByteMap α} {k j : Bytes} {f : Option α → α} :
    j ∈ (m.alter k f).keys ↔ j = k ∨ j ∈ m.keys :=
  mem_keys_alterEntries

def ofList (entries : List (Bytes × α)) : ByteMap α :=
  entries.foldl (fun m e => m.insert e.1 e.2) ∅

end ByteMap

/-- A set of byte strings. -/
abbrev NameSet := ByteMap Unit

namespace NameSet

def insert (s : NameSet) (name : Bytes) : NameSet := ByteMap.insert s name ()

def toList (s : NameSet) : List Bytes := s.keys

def ofNames (names : List Bytes) : NameSet := names.foldl insert ∅

def containsAll (s : NameSet) (names : List Bytes) : Bool := names.all (ByteMap.contains s)

end NameSet
end ServiceAnnotations
