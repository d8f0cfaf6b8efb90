import Mathlib.Data.List.Basic
import ServiceAnnotations.Text.Bytes

/-! # Byte strings put together with separators

Pieces without the separator can be told from what is put together of them. -/
namespace ServiceAnnotations.Bytes

variable {sep : UInt8}

theorem splitAt_eq_singleton {b : Bytes} (h : sep ∉ b) : splitAt sep b = [b] := by
  induction b with
  | nil => rfl
  | cons a b ih =>
    obtain ⟨ha, hb⟩ := List.ne_and_not_mem_of_not_mem_cons h
    rw [splitAt, if_neg ha.symm, ih hb]

theorem splitAt_join {pieces : List Bytes} (hne : pieces ≠ []) (h : ∀ b ∈ pieces, sep ∉ b) :
    splitAt sep (join [sep] pieces) = pieces := by
  induction pieces with
  | nil => exact absurd rfl hne
  | cons b pieces ih =>
    obtain ⟨hb, hpieces⟩ := List.forall_mem_cons.mp h
    cases pieces with
    | nil => exact splitAt_eq_singleton hb
    | cons c pieces =>
      rw [join_cons _ _ (List.cons_ne_nil c pieces), List.append_assoc, List.singleton_append, splitAt_append,
        splitAt_eq_singleton hb, ih (List.cons_ne_nil c pieces) hpieces, List.singleton_append]

/-- Putting pieces together loses none of them. -/
theorem join_inj {pieces pieces' : List Bytes} (hne : pieces ≠ []) (hne' : pieces' ≠ [])
    (h : ∀ b ∈ pieces, sep ∉ b) (h' : ∀ b ∈ pieces', sep ∉ b) :
    join [sep] pieces = join [sep] pieces' ↔ pieces = pieces' := by
  refine ⟨fun hjoin => ?_, congrArg _⟩
  rw [← splitAt_join hne h, hjoin, splitAt_join hne' h']

theorem mem_join {b : UInt8} {pieces : List Bytes} (h : b ∈ join [sep] pieces) :
    b = sep ∨ ∃ piece ∈ pieces, b ∈ piece := by
  induction pieces with
  | nil => cases h
  | cons p pieces ih =>
    cases pieces with
    | nil => exact .inr ⟨p, List.mem_cons_self, h⟩
    | cons q pieces =>
      rw [join_cons _ _ (List.cons_ne_nil q pieces), List.append_assoc, List.mem_append, List.singleton_append,
        List.mem_cons] at h
      rcases h with h | h | h
      · exact .inr ⟨p, List.mem_cons_self, h⟩
      · exact .inl h
      · obtain h | ⟨piece, hpiece, h⟩ := ih h
        · exact .inl h
        · exact .inr ⟨piece, List.mem_cons_of_mem p hpiece, h⟩

/-- The last two pieces may be put together first. -/
theorem join_append_pair (pieces : List Bytes) (b c : Bytes) :
    join [sep] (pieces ++ [b ++ sep :: c]) = join [sep] (pieces ++ [b, c]) := by
  induction pieces with
  | nil => simp [join]
  | cons p pieces ih =>
    rw [List.cons_append, List.cons_append, join_cons _ _ (by simp), join_cons _ _ (by simp), ih]

/-- What stands before the last separator and what stands behind it. -/
theorem append_cons_inj {a b x y : Bytes} (hx : sep ∉ x) (hy : sep ∉ y) :
    a ++ sep :: x = b ++ sep :: y ↔ a = b ∧ x = y := by
  refine ⟨fun h => ?_, fun ⟨ha, hx⟩ => ha ▸ hx ▸ rfl⟩
  have hpieces : splitAt sep a ++ [x] = splitAt sep b ++ [y] := by
    rw [← splitAt_eq_singleton hx, ← splitAt_eq_singleton hy, ← splitAt_append, ← splitAt_append, h]
  obtain ⟨hab, hxy⟩ := List.append_inj' hpieces rfl
  refine ⟨?_, List.singleton_inj.mp hxy⟩
  rw [← join_splitAt sep a, hab, join_splitAt]

end ServiceAnnotations.Bytes
