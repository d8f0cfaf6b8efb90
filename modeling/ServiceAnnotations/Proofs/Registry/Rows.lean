import ServiceAnnotations.Proofs.Registry.Index

/-! # The rows of an index

Pairs of an interface and a provider can be listed by interface in many ways. The rows of an index are
the one such listing in ascending order: whoever lists the pairs in another order and sorts the listing
comes to the same rows. -/
namespace ServiceAnnotations.Registry

/-- Whether rows list some pairs by interface: each interface has one row, with some providers and
with none of them twice. -/
structure Groups (pairs : List (Bytes × Bytes)) (rows : List (Bytes × List Bytes)) : Prop where
  interfaces : (rows.map Prod.fst).Nodup
  providers : ∀ row ∈ rows, row.2 ≠ [] ∧ row.2.Nodup
  sound : ∀ row ∈ rows, ∀ p ∈ row.2, (row.1, p) ∈ pairs
  complete : ∀ pair ∈ pairs, ∃ row ∈ rows, row.1 = pair.1 ∧ pair.2 ∈ row.2

structure Ascending (rows : List (Bytes × List Bytes)) : Prop where
  interfaces : (rows.map Prod.fst).Pairwise (· < ·)
  providers : ∀ row ∈ rows, row.2.Pairwise (· < ·)

/-- Rows in ascending order of their interfaces, each with its providers in ascending order. -/
def sortRows (rows : List (Bytes × List Bytes)) : List (Bytes × List Bytes) :=
  (rows.map fun row => (row.1, Bytes.sort row.2)).mergeSort fun x y => decide (x.1 ≤ y.1)

variable {pairs : List (Bytes × Bytes)} {rows rows' : List (Bytes × List Bytes)}

theorem Groups.mem_providers_iff (h : Groups pairs rows) {row : Bytes × List Bytes} (hrow : row ∈ rows)
    {p : Bytes} : p ∈ row.2 ↔ (row.1, p) ∈ pairs := by
  constructor
  · exact h.sound row hrow p
  · intro hpair
    obtain ⟨row', hrow', hname, hp⟩ := h.complete _ hpair
    have hsame : row' = row := List.inj_on_of_nodup_map h.interfaces hrow' hrow hname
    exact hsame ▸ hp

/-- A row of one ascending listing is in the other. -/
theorem Groups.mem_of_mem (h : Groups pairs rows) (h' : Groups pairs rows') (hasc : Ascending rows)
    (hasc' : Ascending rows') {row : Bytes × List Bytes} (hrow : row ∈ rows) : row ∈ rows' := by
  -- Some provider in the row leads to a row for the same interface; what both rows name is what the pairs say.
  obtain ⟨p, hp⟩ := List.exists_mem_of_ne_nil row.2 (h.providers row hrow).1
  obtain ⟨row', hrow', hname, -⟩ := h'.complete _ (h.sound row hrow p hp)
  have hproviders : row'.2 = row.2 := by
    apply List.Pairwise.eq_of_mem_iff (hasc'.providers row' hrow') (hasc.providers row hrow)
    intro n
    rw [h.mem_providers_iff hrow, h'.mem_providers_iff hrow', hname]
  have hsame : row' = row := Prod.ext hname hproviders
  exact hsame ▸ hrow'

theorem Groups.eq_of_ascending (h : Groups pairs rows) (h' : Groups pairs rows') (hasc : Ascending rows)
    (hasc' : Ascending rows') : rows = rows' := by
  apply ByteMap.eq_of_ascending (List.pairwise_map.mp hasc.interfaces) (List.pairwise_map.mp hasc'.interfaces)
  intro row
  exact ⟨h.mem_of_mem h' hasc hasc', h'.mem_of_mem h hasc' hasc⟩

theorem sort_perm (names : List Bytes) : (Bytes.sort names).Perm names :=
  List.mergeSort_perm names _

theorem ascending_sort {names : List Bytes} (h : names.Nodup) : (Bytes.sort names).Pairwise (· < ·) := by
  have hle : (Bytes.sort names).Pairwise (· ≤ ·) := List.pairwise_mergeSort' (· ≤ ·) names
  have hne : (Bytes.sort names).Nodup := h.perm (sort_perm names).symm
  exact hle.imp₂ (fun _ _ => Std.lt_of_le_of_ne) hne

theorem map_fst_sortRows (rows : List (Bytes × List Bytes)) :
    (sortRows rows).map Prod.fst = Bytes.sort (rows.map Prod.fst) := by
  have hmap : (rows.map fun row => (row.1, Bytes.sort row.2)).map Prod.fst = rows.map Prod.fst := by
    rw [List.map_map]
    rfl
  rw [← hmap]
  exact List.map_mergeSort fun _ _ _ _ => rfl

theorem mem_sortRows {row : Bytes × List Bytes} :
    row ∈ sortRows rows ↔ ∃ row' ∈ rows, (row'.1, Bytes.sort row'.2) = row := by
  rw [sortRows, List.mem_mergeSort, List.mem_map]

theorem Groups.sorted (h : Groups pairs rows) : Groups pairs (sortRows rows) where
  interfaces := by
    rw [map_fst_sortRows]
    exact h.interfaces.perm (sort_perm _).symm
  providers := by
    intro row hrow
    obtain ⟨row', hrow', rfl⟩ := mem_sortRows.mp hrow
    obtain ⟨hne, hnodup⟩ := h.providers row' hrow'
    have hperm := sort_perm row'.2
    exact ⟨fun hnil => hne (List.nil_perm.mp (hnil ▸ hperm)), hnodup.perm hperm.symm⟩
  sound := by
    intro row hrow p hp
    obtain ⟨row', hrow', rfl⟩ := mem_sortRows.mp hrow
    exact h.sound row' hrow' p ((sort_perm row'.2).mem_iff.mp hp)
  complete := by
    intro pair hpair
    obtain ⟨row, hrow, hname, hp⟩ := h.complete pair hpair
    exact ⟨_, mem_sortRows.mpr ⟨row, hrow, rfl⟩, hname, (sort_perm row.2).mem_iff.mpr hp⟩

theorem Groups.ascending_sorted (h : Groups pairs rows) : Ascending (sortRows rows) where
  interfaces := by
    rw [map_fst_sortRows]
    exact ascending_sort h.interfaces
  providers := by
    intro row hrow
    obtain ⟨row', hrow', rfl⟩ := mem_sortRows.mp hrow
    exact ascending_sort (h.providers row' hrow').2

namespace Index

theorem groups_addAll (pairs : List (Bytes × Bytes)) : Groups pairs (addAll ∅ pairs).rows where
  interfaces := (ascending_rows _).nodup
  providers := fun _ hrow => ⟨(tight_empty.addAll pairs).ne_nil_of_mem_rows hrow, (ascending_of_mem_rows hrow).nodup⟩
  sound := fun row hrow _ hp => lists_addAll_empty.mp ⟨row.2, hrow, hp⟩
  complete := by
    intro pair hpair
    obtain ⟨providers, hrow, hp⟩ := lists_addAll_empty.mpr hpair
    exact ⟨(pair.1, providers), hrow, rfl, hp⟩

/-- The rows of an index that is made of some pairs are in ascending order, and each has some providers, in
ascending order too. They show exactly the pairs that were added; there are as many as the size says, and
what is known of an interface is its row. In whatever order the pairs are listed by interface, sorting
gives these rows, and other pairs make the same index just when they are the same set. -/
theorem rows_canonical (pairs : List (Bytes × Bytes)) :
    (((addAll ∅ pairs).rows.map Prod.fst).Pairwise (· < ·) ∧
      ∀ row ∈ (addAll ∅ pairs).rows, row.2 ≠ [] ∧ row.2.Pairwise (· < ·)) ∧
    (∀ i p, (addAll ∅ pairs).Lists i p ↔ (i, p) ∈ pairs) ∧
    (addAll ∅ pairs).size = (addAll ∅ pairs).rows.length ∧
    (∀ i providers, (addAll ∅ pairs).providers? i = some providers ↔ (i, providers) ∈ (addAll ∅ pairs).rows) ∧
    (∀ rows, Groups pairs rows → sortRows rows = (addAll ∅ pairs).rows) ∧
    ∀ pairs', addAll ∅ pairs' = addAll ∅ pairs ↔ ∀ pair, pair ∈ pairs' ↔ pair ∈ pairs := by
  have hgroups := groups_addAll pairs
  have hasc : Ascending (addAll ∅ pairs).rows := ⟨ascending_rows _, fun _ => ascending_of_mem_rows⟩
  refine ⟨⟨hasc.interfaces, ?_⟩, fun i p => lists_addAll_empty, ?_, fun i providers => providers?_eq_some_iff, ?_, ?_⟩
  · intro row hrow
    exact ⟨(hgroups.providers row hrow).1, hasc.providers row hrow⟩
  · simp [ByteMap.size, rows]
  · intro rows hrows
    exact hrows.sorted.eq_of_ascending hgroups hrows.ascending_sorted hasc
  · intro pairs'
    exact addAll_empty_eq_iff

def jumbledPairs : List (Bytes × Bytes) := [("b", "q"), ("a", "r"), ("b", "p"), ("b", "q")]

/-- The same pairs by interface, in the order in which they came. -/
def jumbledRows : List (Bytes × List Bytes) := [("b", ["q", "p"]), ("a", ["r"])]

theorem rows_canonical_jumbled :
    Groups jumbledPairs jumbledRows ∧ sortRows jumbledRows = (addAll ∅ jumbledPairs).rows ∧
      (addAll ∅ jumbledPairs).rows = [(Bytes.ofString "a", [Bytes.ofString "r"]),
        (Bytes.ofString "b", [Bytes.ofString "p", Bytes.ofString "q"])] ∧
      (([Bytes.ofString "p", Bytes.ofString "q"] : List Bytes) ≠ [] ∧
        [Bytes.ofString "p", Bytes.ofString "q"].Pairwise (· < ·)) ∧
      addAll ∅ jumbledPairs.reverse = addAll ∅ jumbledPairs := by
  obtain ⟨⟨-, hrow⟩, -, -, -, hsort, hsame⟩ := rows_canonical jumbledPairs
  have hrows : (addAll ∅ jumbledPairs).rows = [(Bytes.ofString "a", [Bytes.ofString "r"]),
      (Bytes.ofString "b", [Bytes.ofString "p", Bytes.ofString "q"])] := by
    decide +kernel
  have hgroups : Groups jumbledPairs jumbledRows := ⟨by decide, by decide, by decide, by decide⟩
  refine ⟨hgroups, hsort _ hgroups, hrows, ?_, (hsame _).mpr fun _ => List.mem_reverse⟩
  apply hrow (Bytes.ofString "b", [Bytes.ofString "p", Bytes.ofString "q"])
  simp [hrows]

end Index
end ServiceAnnotations.Registry
