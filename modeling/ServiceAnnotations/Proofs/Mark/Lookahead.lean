import ServiceAnnotations.Proofs.Mark.Places

/-! # Tokens and the glyph behind them

A token that is read without error has a source text, which starts and ends as its kind says. The same token is
read wherever this text stands, if the glyph behind it is the same as before or a blank. -/
namespace ServiceAnnotations.Mark
open Text

def isSpacing (c : Char) : Bool := c == ' ' || c == '\t' || c == '\r' || c == '\n'

/-- A text that goes on with `rest'` instead of `rest` shows the same glyph ahead, or a blank. -/
def SameAhead (rest rest' : List Glyph) : Prop :=
  rest'.head? = rest.head? ∨ ∃ c, isSpacing c ∧ rest'.head? = some (.char c)

theorem eq_of_isSpacing {c : Char} (h : isSpacing c) : c = ' ' ∨ c = '\t' ∨ c = '\r' ∨ c = '\n' := by
  simpa [isSpacing, or_assoc] using h

theorem look_eq_none_iff {rest : List Glyph} {error : Option LexError} :
    look rest error = none ↔ look rest none = none ∧ error = none := by
  unfold look
  split
  · simp
  · split <;> simp
  · simp

theorem look_char_cons {c : Char} {rest : List Glyph} :
    look (.char c :: rest) none = none ↔ c.toNat ≠ 0 := by
  simp [look]

theorem exists_char_of_look {g : Glyph} {rest : List Glyph} (h : look (g :: rest) none = none) :
    ∃ c, g = .char c ∧ c.toNat ≠ 0 := by
  cases g with
  | char c => exact ⟨c, rfl, look_char_cons.mp h⟩
  | stray b => cases h

namespace SameAhead

variable {rest rest' : List Glyph}

theorem refl (rest : List Glyph) : SameAhead rest rest := .inl rfl

theorem look (h : SameAhead rest rest') (hlook : look rest none = none) : look rest' none = none := by
  rcases h with hhead | ⟨c, hc, hhead⟩
  · cases rest' with
    | nil => rfl
    | cons g tail =>
      cases rest with
      | nil => cases hhead
      | cons g' tail' =>
        obtain rfl : g = g' := by simpa using hhead
        cases g with
        | char c => exact look_char_cons.mpr (look_char_cons.mp hlook)
        | stray b => cases hlook
  · cases rest' with
    | nil => cases hhead
    | cons g tail =>
      obtain rfl : g = .char c := by simpa using hhead
      rcases eq_of_isSpacing hc with rfl | rfl | rfl | rfl <;> rfl

/-- The texts agree behind the same characters. -/
theorem append (h : SameAhead rest rest') (front : List Glyph) : SameAhead (front ++ rest) (front ++ rest') := by
  cases front with
  | nil => exact h
  | cons g front => exact .inl rfl

/-- What blanks do not have, the glyph ahead does not have either. -/
theorem any_holds (h : SameAhead rest rest') {p : Char → Bool} (hp : ∀ c, isSpacing c → p c = false)
    (hrest : rest.head?.any (Glyph.holds p) = false) : rest'.head?.any (Glyph.holds p) = false := by
  rcases h with hhead | ⟨c, hc, hhead⟩
  · rw [hhead, hrest]
  · simp [hhead, Glyph.holds, hp c hc]

end SameAhead

section
variable {p : Char → Bool}

theorem takeWhile_holds (p : Char → Bool) (gs : List Glyph) :
    ∃ cs : List Char, gs.takeWhile (Glyph.holds p) = cs.map .char ∧ ∀ c ∈ cs, p c := by
  induction gs with
  | nil => exact ⟨[], rfl, by simp⟩
  | cons g gs ih =>
    obtain ⟨cs, htake, hcs⟩ := ih
    cases g with
    | stray b => exact ⟨[], rfl, by simp⟩
    | char c =>
      by_cases hc : p c = true
      · exact ⟨c :: cs, by simp [Glyph.holds, hc, htake], by simpa [hc] using hcs⟩
      · exact ⟨[], by simp [Glyph.holds, hc], by simp⟩

/-- The characters at the front that satisfy `p`, and a rest that does not go on with one. -/
theorem exists_run (p : Char → Bool) (gs : List Glyph) :
    ∃ cs : List Char, gs = cs.map .char ++ gs.dropWhile (Glyph.holds p) ∧ (∀ c ∈ cs, p c) ∧
      (gs.dropWhile (Glyph.holds p)).head?.any (Glyph.holds p) = false := by
  obtain ⟨cs, htake, hcs⟩ := takeWhile_holds p gs
  refine ⟨cs, by rw [← htake, List.takeWhile_append_dropWhile], hcs, ?_⟩
  cases hdrop : gs.dropWhile (Glyph.holds p) with
  | nil => rfl
  | cons g rest =>
    have hhead := List.head_dropWhile_not (Glyph.holds p) (l := gs) (by simp [hdrop])
    simpa [hdrop] using hhead

theorem dropWhile_holds_append {cs : List Char} (hcs : ∀ c ∈ cs, p c) {rest : List Glyph}
    (hrest : rest.head?.any (Glyph.holds p) = false) :
    (cs.map Glyph.char ++ rest).dropWhile (Glyph.holds p) = rest := by
  rw [List.dropWhile_append_of_pos (by simpa [Glyph.holds] using hcs)]
  cases rest with
  | nil => rfl
  | cons g rest => exact List.dropWhile_cons_of_neg (by simpa using hrest)

theorem takeWhile_holds_append {cs : List Char} (hcs : ∀ c ∈ cs, p c) {rest : List Glyph}
    (hrest : rest.head?.any (Glyph.holds p) = false) :
    (cs.map Glyph.char ++ rest).takeWhile (Glyph.holds p) = cs.map Glyph.char := by
  rw [List.takeWhile_append_of_pos (by simpa [Glyph.holds] using hcs)]
  cases rest with
  | nil => simp
  | cons g rest =>
    rw [List.takeWhile_cons_of_neg (by simpa using hrest), List.append_nil]

end

namespace Scan

theorem start_run {rest : List Glyph} (h : look rest none = none) : start rest = ⟨rest, none⟩ := by
  rw [start, h]

theorem step_run {g : Glyph} {rest : List Glyph} (h : look rest none = none) :
    (mk (g :: rest) none).step = ⟨rest, none⟩ := by
  rw [step, List.tail_cons, h]

theorem skipWhile_run {p : Char → Bool} {cs : List Char} (hcs : ∀ c ∈ cs, p c) {rest : List Glyph}
    (hrest : rest.head?.any (Glyph.holds p) = false) (hlook : look rest none = none) :
    (mk (cs.map .char ++ rest) none).skipWhile p = ⟨rest, none⟩ := by
  unfold skipWhile
  simp only [dropWhile_holds_append hcs hrest, hlook]
  cases cs with
  | nil => simp [nextIs, hrest]
  | cons c cs => simp [nextIs, Glyph.holds, hcs c (by simp)]

theorem run_append {p : Char → Bool} {cs : List Char} (hcs : ∀ c ∈ cs, p c) {rest : List Glyph}
    (hrest : rest.head?.any (Glyph.holds p) = false) (e : Option LexError) :
    (mk (cs.map .char ++ rest) e).run p = cs := by
  rw [run, takeWhile_holds_append hcs hrest]
  simp [List.filterMap_map, Function.comp_def]

/-- A scan that has read past characters without error: what they are, and what is ahead then. -/
theorem of_error_skipWhile {p : Char → Bool} {s : Scan} (hs : s.error = none → look s.rest none = none)
    (h : (s.skipWhile p).error = none) :
    ∃ (cs : List Char) (rest : List Glyph), s = ⟨cs.map .char ++ rest, none⟩ ∧ (∀ c ∈ cs, p c) ∧
      rest.head?.any (Glyph.holds p) = false ∧ look rest none = none := by
  obtain ⟨rest, error⟩ := s
  obtain ⟨cs, hrest, hcs, hend⟩ := exists_run p rest
  by_cases hnext : (mk rest error).nextIs p = true
  · rw [skipWhile, if_pos hnext] at h
    obtain ⟨hlook, rfl⟩ := look_eq_none_iff.mp h
    exact ⟨cs, _, by rw [← hrest], hcs, hend, hlook⟩
  · rw [skipWhile, if_neg hnext] at h
    obtain rfl : error = none := h
    exact ⟨[], rest, rfl, by simp, by simpa [nextIs] using hnext, hs rfl⟩

end Scan

end ServiceAnnotations.Mark
