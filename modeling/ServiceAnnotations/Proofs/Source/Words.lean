import Mathlib.Data.List.TakeWhile
import ServiceAnnotations.Proofs.Source.Spots

/-! # Words among the tokens of a file -/
namespace ServiceAnnotations.Source
open Text

/-- Whether a text can be the name of something that is declared. -/
structure IsWord (cs : List Char) : Prop where
  start : ∃ c tail, cs = c :: tail ∧ isWordStart c = true ∧ ∀ d ∈ tail, isWordTail d = true
  notKeyword : String.ofList cs ∉ keywords

theorem isWord_iff {cs : List Char} :
    IsWord cs ↔ cs.head?.any isWordStart ∧ cs.tail.all isWordTail ∧ String.ofList cs ∉ keywords := by
  cases cs with
  | nil =>
    refine ⟨fun h => ?_, fun h => by simp at h⟩
    obtain ⟨_, _, hcons, -⟩ := h.start
    cases hcons
  | cons c cs =>
    refine ⟨fun h => ?_, fun h => ⟨⟨c, cs, rfl, by simpa using h.1, List.all_eq_true.mp h.2.1⟩, h.2.2⟩⟩
    obtain ⟨_, _, heq, hstart, htail⟩ := h.start
    obtain ⟨rfl, rfl⟩ := List.cons.inj heq
    exact ⟨by simpa using hstart, List.all_eq_true.mpr htail, h.notKeyword⟩

instance (cs : List Char) : Decidable (IsWord cs) := decidable_of_iff _ isWord_iff.symm

theorem isWord_tokenAt {c : Char} {cs : List Char} (h : (tokenAt c cs).1 = .word) :
    IsWord ((c :: cs).take (tokenAt c cs).2) := by
  unfold tokenAt at h ⊢
  split at h
  · rename_i hstart
    have htext : (c :: cs).take ((cs.takeWhile isWordTail).length + 1) = c :: cs.takeWhile isWordTail := by
      rw [List.take_succ_cons, ← List.prefix_iff_eq_take.mp (List.takeWhile_prefix isWordTail)]
    rw [if_pos hstart, htext]
    refine ⟨⟨c, _, rfl, hstart, fun d hd => List.mem_takeWhile_imp hd⟩, fun hkeyword => ?_⟩
    dsimp only at h
    rw [if_pos hkeyword] at h
    cases h
  · repeat' split at h
    all_goals cases h

theorem isWord_of_mem_tokensFrom {t : Token} {fuel : Nat} {spot : Spot} {pending : Bool} {cs : List Char}
    (h : t ∈ tokensFrom fuel spot pending cs) (hword : t.kind = .word) : IsWord t.text := by
  induction fuel generalizing spot pending cs with
  | zero => simp [tokensFrom] at h
  | succ fuel ih =>
    cases cs with
    | nil =>
      rw [eq_of_mem_tokensFrom_nil h] at hword
      cases hword
    | cons c cs =>
      cases readFrom_of_mem h with
      | lineEnd _ kind _ => cases kind.symm.trans hword
      | comment _ kind _ _ => cases kind.symm.trans hword
      | front eq =>
        subst eq
        exact isWord_tokenAt hword
      | later _ _ mem => exact ih mem

/-- The words of a file can be names. -/
theorem isWord_of_mem_lexemes {source : List Char} {l : Lexeme} (h : l ∈ lexemes source)
    (hword : l.token.kind = .word) : IsWord l.token.text := by
  have hmem : ∀ {ts : List Token} {before : Nat} {comments : List Comment},
      l ∈ attachDocs before comments ts → l.token ∈ ts := by
    intro ts
    induction ts with
    | nil => exact fun h => by cases h
    | cons t ts ih =>
      intro before comments h
      rw [attachDocs] at h
      split at h
      · exact List.mem_cons_of_mem t (ih h)
      · rcases List.mem_cons.mp h with rfl | h
        · exact List.mem_cons_self
        · exact List.mem_cons_of_mem t (ih h)
  exact isWord_of_mem_tokensFrom (hmem h) hword

/-- A word has no character that cannot continue one. -/
theorem IsWord.notMem {cs : List Char} (h : IsWord cs) {c : Char} (hc : isWordTail c = false) : c ∉ cs := by
  obtain ⟨first, tail, rfl, hstart, htail⟩ := h.start
  rw [List.mem_cons, not_or]
  constructor
  · rintro rfl
    simp [isWordTail, hstart] at hc
  · intro hmem
    rw [htail c hmem] at hc
    cases hc

end ServiceAnnotations.Source
