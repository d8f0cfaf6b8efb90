import ServiceAnnotations.Proofs.Text.ByteMap
import ServiceAnnotations.Registry.Index

/-! # An index as a set of pairs -/
namespace ServiceAnnotations.Registry.Index

/-- Whether an index lists a provider of an interface. -/
def Lists (idx : Index) (interface provider : Bytes) : Prop :=
  ∃ providers, (interface, providers) ∈ idx.rows ∧ provider ∈ providers

theorem lists_iff {idx : Index} {i p : Bytes} :
    idx.Lists i p ↔ ∃ names : NameSet, idx.get? i = some names ∧ p ∈ names.toList := by
  simp only [Lists, rows, List.mem_map, Prod.mk.injEq]
  constructor
  · rintro ⟨_, ⟨⟨j, names⟩, hmem, rfl, rfl⟩, hp⟩
    exact ⟨names, ByteMap.mem_entries_iff.mp hmem, hp⟩
  · rintro ⟨names, hget, hp⟩
    exact ⟨names.toList, ⟨(i, names), ByteMap.mem_entries_iff.mpr hget, rfl, rfl⟩, hp⟩

@[simp] theorem not_lists_empty (i p : Bytes) : ¬ Lists ∅ i p := by
  rintro ⟨_, hmem, -⟩
  cases hmem

theorem ascending_rows (idx : Index) : (idx.rows.map Prod.fst).Pairwise (· < ·) := by
  simpa [rows, List.pairwise_map] using idx.ascending

theorem ascending_of_mem_rows {idx : Index} {row : Bytes × List Bytes} (hrow : row ∈ idx.rows) :
    row.2.Pairwise (· < ·) := by
  obtain ⟨e, -, rfl⟩ := List.mem_map.mp hrow
  exact NameSet.ascending_toList e.2

theorem providers?_eq_some_iff {idx : Index} {i : Bytes} {providers : List Bytes} :
    idx.providers? i = some providers ↔ (i, providers) ∈ idx.rows := by
  simp only [providers?, rows, Option.map_eq_some_iff, List.mem_map, Prod.mk.injEq]
  constructor
  · rintro ⟨names, hget, hnames⟩
    exact ⟨(i, names), ByteMap.mem_entries_iff.mpr hget, rfl, hnames⟩
  · rintro ⟨⟨j, names⟩, hmem, rfl, hnames⟩
    exact ⟨names, ByteMap.mem_entries_iff.mp hmem, hnames⟩

theorem lists_add {idx : Index} {i p j q : Bytes} :
    (idx.add i p).Lists j q ↔ j = i ∧ q = p ∨ idx.Lists j q := by
  simp only [lists_iff, add, ByteMap.get?_alter]
  by_cases hji : j = i
  · subst hji
    cases hget : ByteMap.get? idx j with
    | none => simp
    | some names => simp
  · simp [hji]

def Tight (idx : Index) : Prop :=
  ∀ (i : Bytes) (names : NameSet), idx.get? i = some names → ∃ p, p ∈ names.toList

theorem tight_empty : Tight ∅ := by
  intro i names hget
  cases hget

theorem Tight.add {idx : Index} (h : idx.Tight) (i p : Bytes) : (idx.add i p).Tight := by
  intro j names hget
  simp only [Index.add, ByteMap.get?_alter] at hget
  by_cases hji : j = i
  · rw [if_pos hji, Option.some.injEq] at hget
    exact ⟨p, by simp [← hget]⟩
  · rw [if_neg hji] at hget
    exact h j names hget

theorem Tight.ne_nil_of_mem_rows {idx : Index} (h : idx.Tight) {row : Bytes × List Bytes}
    (hrow : row ∈ idx.rows) : row.2 ≠ [] := by
  obtain ⟨⟨i, names⟩, hmem, rfl⟩ := List.mem_map.mp hrow
  obtain ⟨p, hp⟩ := h i names (ByteMap.mem_entries_iff.mp hmem)
  exact List.ne_nil_of_mem hp

/-- A tight index is known by the pairs in it. -/
theorem Tight.ext_lists {idx idx' : Index} (h : idx.Tight) (h' : idx'.Tight)
    (hsame : ∀ i p, idx.Lists i p ↔ idx'.Lists i p) : idx = idx' := by
  simp only [lists_iff] at hsame
  apply ByteMap.ext_get?
  intro i
  cases hget : ByteMap.get? idx i with
  | none =>
    cases hget' : ByteMap.get? idx' i with
    | none => rfl
    | some names' =>
      obtain ⟨p, hp⟩ := h' i names' hget'
      obtain ⟨names, hnames, -⟩ := (hsame i p).mpr ⟨names', hget', hp⟩
      rw [hget] at hnames
      cases hnames
  | some names =>
    obtain ⟨p, hp⟩ := h i names hget
    obtain ⟨names', hget', -⟩ := (hsame i p).mp ⟨names, hget, hp⟩
    have hnames : names = names' := by
      apply NameSet.ext_toList
      intro n
      simpa [hget, hget'] using hsame i n
    rw [hget', hnames]

/-- Records some pairs of an interface and a provider. -/
def addAll (idx : Index) (pairs : List (Bytes × Bytes)) : Index :=
  pairs.foldl (fun idx pair => idx.add pair.1 pair.2) idx

theorem addAll_cons (idx : Index) (pair : Bytes × Bytes) (pairs : List (Bytes × Bytes)) :
    idx.addAll (pair :: pairs) = (idx.add pair.1 pair.2).addAll pairs := rfl

theorem lists_addAll {pairs : List (Bytes × Bytes)} {idx : Index} {i p : Bytes} :
    (idx.addAll pairs).Lists i p ↔ idx.Lists i p ∨ (i, p) ∈ pairs := by
  induction pairs generalizing idx with
  | nil => simp [addAll]
  | cons pair pairs ih =>
    rw [addAll_cons, ih, lists_add, List.mem_cons, Prod.ext_iff]
    tauto

theorem Tight.addAll {idx : Index} (h : idx.Tight) (pairs : List (Bytes × Bytes)) : (idx.addAll pairs).Tight := by
  induction pairs generalizing idx with
  | nil => exact h
  | cons pair pairs ih =>
    rw [addAll_cons]
    exact ih (h.add pair.1 pair.2)

@[simp] theorem lists_addAll_empty {pairs : List (Bytes × Bytes)} {i p : Bytes} :
    (addAll ∅ pairs).Lists i p ↔ (i, p) ∈ pairs := by
  simp [lists_addAll]

/-- Of the pairs that were added, neither the order counts nor how often each of them was. -/
theorem addAll_empty_eq_iff {pairs pairs' : List (Bytes × Bytes)} :
    addAll ∅ pairs' = addAll ∅ pairs ↔ ∀ pair, pair ∈ pairs' ↔ pair ∈ pairs := by
  constructor
  · rintro heq ⟨i, p⟩
    rw [← lists_addAll_empty, heq, lists_addAll_empty]
  · intro hsame
    apply (tight_empty.addAll pairs').ext_lists (tight_empty.addAll pairs)
    intro i p
    simp [hsame]

end ServiceAnnotations.Registry.Index
