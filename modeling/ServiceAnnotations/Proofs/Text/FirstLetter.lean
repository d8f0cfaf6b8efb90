import ServiceAnnotations.Proofs.Text.Utf8
import ServiceAnnotations.Text.FirstLetter

/-! # Names with a capital first letter

No character has a small letter of ASCII as its upper-case form, so a name with a capital first letter does not start
with one. -/
namespace ServiceAnnotations.Text

def IsSmall (n : Nat) : Prop := 0x61 ≤ n ∧ n ≤ 0x7a

instance (n : Nat) : Decidable (IsSmall n) := inferInstanceAs (Decidable (_ ∧ _))

/-- No run of code points moves onto a small letter of ASCII. -/
theorem upperShifts_apart :
    ∀ s ∈ upperShifts, (s.last : Int) + s.distance < 0x61 ∨ 0x7a < (s.first : Int) + s.distance := by
  decide +kernel

theorem not_isSmall_toUpper_ascii : ∀ n < 0x80, ¬ IsSmall (Char.ofNat n).toUpper.toNat := by
  decide +kernel

theorem not_isSmall_ofNat {n : Nat} (h : ¬ IsSmall n) : ¬ IsSmall (Char.ofNat n).toNat := by
  by_cases hn : n.isValidChar
  · rwa [Char.ofNat, dif_pos hn]
  · rw [Char.ofNat, dif_neg hn]
    exact of_decide_eq_false rfl

theorem not_isSmall_toUpper (c : Char) : ¬ IsSmall (toUpper c).toNat := by
  unfold toUpper
  split
  · rename_i hascii
    have hupper := not_isSmall_toUpper_ascii c.toNat hascii
    rwa [Char.ofNat_toNat] at hupper
  · rename_i hascii
    unfold shift
    split
    · rename_i s hs
      have hcovers := List.find?_some hs
      have hapart := upperShifts_apart s (List.mem_of_find?_eq_some hs)
      simp only [Shift.covers, Bool.and_eq_true, decide_eq_true_eq] at hcovers
      refine not_isSmall_ofNat ?_
      unfold IsSmall
      omega
    · unfold IsSmall
      omega

/-- A text with a capital first letter starts with the upper-case form of some character. -/
theorem exists_glyphs_upperFirst (b : Bytes) : ∃ c rest, Utf8.glyphs (upperFirst b) = .char (toUpper c) :: rest := by
  have hencode (c : Char) (rest : Bytes) :
      Utf8.glyphs (String.utf8EncodeChar c ++ rest) = .char c :: Utf8.glyphs rest := by
    rw [Utf8.glyphs_spells_append (Utf8.spells_encode c), Char.ofNat_toNat]
  cases b with
  | nil =>
    have hempty := hencode (toUpper '\ufffd') []
    rw [List.append_nil] at hempty
    exact ⟨_, _, hempty⟩
  | cons a rest => exact ⟨_, _, hencode _ _⟩

end ServiceAnnotations.Text
