/-! # Byte strings

Names and file contents are byte strings: nothing promises that they are valid text. They are
compared byte by byte. -/
namespace ServiceAnnotations

/-- A byte string. -/
abbrev Bytes := List UInt8

namespace Bytes

def ofChars (cs : List Char) : Bytes := cs.flatMap String.utf8EncodeChar

def ofString (s : String) : Bytes := ofChars s.toList

instance : Coe String Bytes := ⟨ofString⟩

@[simp] theorem ofChars_nil : ofChars [] = [] := rfl

@[simp] theorem ofChars_cons (c : Char) (cs : List Char) :
    ofChars (c :: cs) = String.utf8EncodeChar c ++ ofChars cs := rfl

@[simp] theorem ofChars_append (cs ds : List Char) :
    ofChars (cs ++ ds) = ofChars cs ++ ofChars ds := by
  simp [ofChars]

/-- The bytes between the pieces of `sep`-separated lists. -/
def join (sep : Bytes) : List Bytes → Bytes
  | [] => []
  | [b] => b
  | b :: rest => b ++ sep ++ join sep rest

/-- The pieces of a byte string between the occurrences of one byte; there is always one. -/
def splitAt (sep : UInt8) : Bytes → List Bytes
  | [] => [[]]
  | b :: rest =>
    if b = sep then [] :: splitAt sep rest
    else match splitAt sep rest with
      | [] => [[b]]
      | piece :: pieces => (b :: piece) :: pieces

theorem splitAt_ne_nil (sep : UInt8) (b : Bytes) : splitAt sep b ≠ [] := by
  induction b with
  | nil => simp [splitAt]
  | cons a rest ih =>
    unfold splitAt
    split
    · simp
    · split <;> simp

/-- A byte string is divided at each occurrence of the byte on its own. -/
theorem splitAt_append (sep : UInt8) (x y : Bytes) :
    splitAt sep (x ++ sep :: y) = splitAt sep x ++ splitAt sep y := by
  induction x with
  | nil => simp [splitAt]
  | cons a rest ih =>
    by_cases h : a = sep
    · simp [splitAt, h, ih]
    · obtain ⟨p, ps, hp⟩ := List.exists_cons_of_ne_nil (splitAt_ne_nil sep rest)
      simp [splitAt, h, ih, hp]

theorem join_cons (sep b : Bytes) {rest : List Bytes} (h : rest ≠ []) :
    join sep (b :: rest) = b ++ sep ++ join sep rest := by
  cases rest with
  | nil => exact absurd rfl h
  | cons c rest => rfl

/-- Dividing a byte string loses nothing. -/
theorem join_splitAt (sep : UInt8) (b : Bytes) : join [sep] (splitAt sep b) = b := by
  induction b with
  | nil => rfl
  | cons a rest ih =>
    obtain ⟨p, ps, hp⟩ := List.exists_cons_of_ne_nil (splitAt_ne_nil sep rest)
    by_cases h : a = sep
    · rw [splitAt, if_pos h, join_cons _ _ (splitAt_ne_nil sep rest), ih, h]
      rfl
    · rw [splitAt, if_neg h, hp]
      rw [hp] at ih
      cases ps with
      | nil => exact congrArg (a :: ·) ih
      | cons q qs =>
        rw [join_cons _ _ (List.cons_ne_nil q qs)] at ih ⊢
        rw [← ih]
        rfl

/-- The pieces of a byte string do not have the byte that divides them. -/
theorem not_mem_of_mem_splitAt {sep : UInt8} {b p : Bytes} (h : p ∈ splitAt sep b) : sep ∉ p := by
  induction b generalizing p with
  | nil =>
    rw [List.mem_singleton.mp h]
    exact List.not_mem_nil
  | cons a rest ih =>
    by_cases ha : a = sep
    · rw [splitAt, if_pos ha] at h
      rcases List.mem_cons.mp h with rfl | h
      · exact List.not_mem_nil
      · exact ih h
    · obtain ⟨q, qs, hq⟩ := List.exists_cons_of_ne_nil (splitAt_ne_nil sep rest)
      rw [splitAt, if_neg ha, hq] at h
      rcases List.mem_cons.mp h with rfl | h
      · have hsep : sep ∉ q := ih (hq ▸ List.mem_cons_self)
        exact fun hmem => (List.mem_cons.mp hmem).elim (fun h => ha h.symm) hsep
      · exact ih (hq ▸ List.mem_cons_of_mem q h)

def sort (names : List Bytes) : List Bytes := names.mergeSort fun a b => decide (a ≤ b)

end Bytes
end ServiceAnnotations
