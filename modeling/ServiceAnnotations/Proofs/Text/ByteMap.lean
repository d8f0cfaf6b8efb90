import Mathlib.Data.List.Sort
import ServiceAnnotations.Text.ByteMap

/-! # Byte maps and name sets by their members

Entries are what `get?` finds, and a set is known by the names in it. -/
namespace ServiceAnnotations

namespace ByteMap
variable {α : Type}

theorem mem_entries_iff {m : ByteMap α} {k : Bytes} {a : α} :
    (k, a) ∈ m.entries ↔ m.get? k = some a := by
  obtain ⟨l, hl⟩ := m
  simp only [get?]
  induction l with
  | nil => simp
  | cons x rest ih =>
    obtain ⟨hhead, htail⟩ := List.pairwise_cons.mp hl
    by_cases hx : x.1 = k
    · have hnot : (k, a) ∉ rest := fun h => List.lt_irrefl k (by simpa [hx] using hhead (k, a) h)
      simp [hx, hnot, Prod.ext_iff, eq_comm]
    · have hne : (k, a) ≠ x := fun h => hx (by simp [← h])
      simpa [List.find?_cons, hx, hne] using ih htail

theorem entries_eq_nil_iff {m : ByteMap α} : m.entries = [] ↔ ∀ k, m.get? k = none := by
  rw [List.eq_nil_iff_forall_not_mem]
  constructor
  · intro hnil k
    apply Option.eq_none_iff_forall_ne_some.mpr
    intro a ha
    exact hnil (k, a) (mem_entries_iff.mpr ha)
  · intro hnone x hx
    have hsome := (hnone x.1).symm.trans (mem_entries_iff.mp hx)
    cases hsome

theorem contains_iff_mem_keys {m : ByteMap α} {k : Bytes} : m.contains k = true ↔ k ∈ m.keys := by
  simp only [contains, Option.isSome_iff_exists, keys, List.mem_map, Prod.exists]
  constructor
  · rintro ⟨a, ha⟩
    exact ⟨k, a, mem_entries_iff.mpr ha, rfl⟩
  · rintro ⟨_, a, ha, rfl⟩
    exact ⟨a, mem_entries_iff.mp ha⟩

theorem ascending_keys (m : ByteMap α) : m.keys.Pairwise (· < ·) :=
  List.pairwise_map.mpr m.ascending

/-- Entries with ascending keys are known by what is among them. -/
theorem eq_of_ascending {l l' : List (Bytes × α)} (h : l.Pairwise fun x y => x.1 < y.1)
    (h' : l'.Pairwise fun x y => x.1 < y.1) (hmem : ∀ x, x ∈ l ↔ x ∈ l') : l = l' := by
  have hirrefl : Std.Irrefl fun x y : Bytes × α => x.1 < y.1 := ⟨fun x => List.lt_irrefl x.1⟩
  have hantisymm : Std.Antisymm fun x y : Bytes × α => x.1 < y.1 :=
    ⟨fun x y hxy hyx => absurd (List.lt_trans hxy hyx) (List.lt_irrefl x.1)⟩
  exact List.Pairwise.eq_of_mem_iff h h' hmem

/-- A map is known by what is found in it. -/
theorem ext_get? {m m' : ByteMap α} (h : ∀ k, m.get? k = m'.get? k) : m = m' := by
  apply ByteMap.ext
  apply eq_of_ascending m.ascending m'.ascending
  rintro ⟨k, a⟩
  rw [mem_entries_iff, mem_entries_iff, h k]

/-- Entries that are put into a map one after another take precedence over what was there. -/
theorem get?_foldl_insert (o m : ByteMap α) (k : Bytes) :
    (o.entries.foldl (fun m e => m.insert e.1 e.2) m).get? k = (o.get? k).or (m.get? k) := by
  obtain ⟨l, hl⟩ := o
  simp only [get?]
  induction l generalizing m with
  | nil => rfl
  | cons x rest ih =>
    obtain ⟨hhead, htail⟩ := List.pairwise_cons.mp hl
    rw [List.foldl_cons]
    refine (ih (m.insert x.1 x.2) htail).trans ?_
    have hinsert : ((m.insert x.1 x.2).entries.find? (·.1 = k)).map Prod.snd =
        if k = x.1 then some x.2 else m.get? k := m.get?_insert x.1 k x.2
    rw [hinsert]
    by_cases hx : x.1 = k
    · have hnone : rest.find? (·.1 = k) = none := by
        rw [List.find?_eq_none]
        intro y hy hyk
        have hlt := hhead y hy
        rw [hx, of_decide_eq_true hyk] at hlt
        exact List.lt_irrefl k hlt
      simp [hx, hnone]
    · simp [hx, Ne.symm hx, get?]

end ByteMap

namespace NameSet

@[simp] theorem toList_empty : (∅ : NameSet).toList = [] := rfl

theorem ascending_toList (s : NameSet) : s.toList.Pairwise (· < ·) := s.ascending_keys

@[simp] theorem mem_toList_insert {s : NameSet} {n name : Bytes} :
    n ∈ (s.insert name).toList ↔ n = name ∨ n ∈ s.toList :=
  ByteMap.mem_keys_alter

theorem mem_toList_foldl_insert {names : List Bytes} {s : NameSet} {n : Bytes} :
    n ∈ (names.foldl insert s).toList ↔ n ∈ s.toList ∨ n ∈ names := by
  induction names generalizing s with
  | nil => simp
  | cons name names ih =>
    rw [List.foldl_cons, ih, mem_toList_insert, List.mem_cons]
    tauto

theorem mem_toList_ofNames {names : List Bytes} {n : Bytes} :
    n ∈ (ofNames names).toList ↔ n ∈ names := by
  simp [ofNames, mem_toList_foldl_insert]

/-- A set is known by the names in it. -/
theorem ext_toList {s t : NameSet} (h : ∀ n, n ∈ s.toList ↔ n ∈ t.toList) : s = t := by
  apply ByteMap.ext_get?
  intro n
  have hn : (ByteMap.get? s n).isSome = true ↔ (ByteMap.get? t n).isSome = true :=
    ByteMap.contains_iff_mem_keys.trans ((h n).trans ByteMap.contains_iff_mem_keys.symm)
  cases hs : ByteMap.get? s n <;> cases ht : ByteMap.get? t n <;> simp_all

theorem ofNames_toList (s : NameSet) : ofNames s.toList = s :=
  ext_toList fun _ => mem_toList_ofNames

theorem containsAll_iff {s : NameSet} {names : List Bytes} :
    s.containsAll names = true ↔ ∀ n ∈ names, n ∈ s.toList := by
  simp [containsAll, ByteMap.contains_iff_mem_keys, toList]

end NameSet
end ServiceAnnotations
