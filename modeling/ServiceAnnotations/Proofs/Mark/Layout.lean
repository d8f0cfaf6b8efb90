import ServiceAnnotations.Proofs.Mark.Accepted
import ServiceAnnotations.Proofs.Mark.Brackets
import ServiceAnnotations.Proofs.Mark.Tiling

/-! # Layout does not change meaning

Between two tokens of a text that is read there may stand a blank more, or a line end more where a bracket is open or
the line goes on. The same annotations are read then, at other places. -/
namespace ServiceAnnotations.Mark
open Text

namespace Lexer

variable {l l' : Lexer} {pos : Position} {ts : Tokens}

abbrev anyPlaces (_ _ : Position) : Prop := True

theorem keptByGlyphs_anyPlaces : KeptByGlyphs anyPlaces := fun _ _ _ _ => trivial

/-- A lexer that is to read `tail`, behind any blanks `gap'`. -/
structure Before (m : Lexer) (continues : Bool) (gap' : List Char) (tail : List Glyph) : Prop where
  rest : m.rest = gap'.map .char ++ tail
  blank : ∀ c ∈ gap', isBlank continues (.char c) = true
  continues : m.continues = continues
  stopped : m.stopped = none
  unmarked : m.skipMark = m

/-- What comes next does not depend on the blanks before it. -/
theorem next_before {t : Token} (h : l.next = (.token pos t, l')) (hl : l.skipMark = l) :
    ∃ (gap : List Char) (tail : List Glyph), l.Before l.continues gap tail ∧
      pos = l.pos.afterAll (gap.map .char) ∧ look tail none = none ∧
      ∀ (m : Lexer) (gap' : List Char), m.Before l.continues gap' tail →
        ∃ pos' m', m.next = (.token pos' t, m') ∧ (t ≠ .endOfInput → Moved anyPlaces l' m') := by
  obtain ⟨hstopped, gap, hgap, rfl, hcases⟩ := next_token_cases h
  rw [hl] at hcases
  rcases hcases with ⟨rfl, hrest, -⟩ | ⟨cs, hrest, hyields, hl'⟩
  · refine ⟨gap, [], ⟨by simpa using hrest, hgap, rfl, hstopped, hl⟩, placeBehind_of_unmarked hl gap, rfl, ?_⟩
    intro m gap' hm
    have hnext := next_endOfInput hm.stopped (hm.continues ▸ hm.blank) (by rw [hm.unmarked, hm.rest, List.append_nil])
    exact ⟨_, _, hnext, fun hne => absurd rfl hne⟩
  · refine ⟨gap, cs.map .char ++ l'.rest, ⟨by rw [hrest, List.map_append, List.append_assoc], hgap, rfl, hstopped, hl⟩,
      placeBehind_of_unmarked hl gap, hyields.starts _, ?_⟩
    intro m gap' hm
    have hnext := hyields.next_eq m gap' l'.rest hm.continues hm.stopped hm.blank (.refl _)
      (by rw [hm.unmarked, hm.rest, List.map_append, List.append_assoc])
    refine ⟨_, _, hnext, fun _ => ?_⟩
    rw [hl']
    exact ⟨rfl, rfl, rfl, skipMark_of_not_fresh rfl, skipMark_of_not_fresh rfl, trivial⟩

/-- The tokens up to the end of the input do not depend on the blanks before them. -/
theorem runs_before (h : Runs l ts l') {e : Lexer} (hlast : l'.next = (.token pos .endOfInput, e))
    (hl : l.skipMark = l) :
    ∃ (gap : List Char) (tail : List Glyph) (first : Position) (t : Token), l.Before l.continues gap tail ∧
      l.next.1 = .token first t ∧ first = l.pos.afterAll (gap.map .char) ∧ look tail none = none ∧
      ∀ (m : Lexer) (gap' : List Char), m.Before l.continues gap' tail →
        ∃ (us : Tokens) (m' : Lexer) (pos' : Position) (e' : Lexer), Runs m us m' ∧
          m'.next = (.token pos' .endOfInput, e') ∧ us.map Prod.snd = ts.map Prod.snd := by
  cases h with
  | nil =>
    obtain ⟨gap, tail, hbefore, hpos, hlook, hother⟩ := next_before hlast hl
    refine ⟨gap, tail, pos, _, hbefore, by rw [hlast], hpos, hlook, fun m gap' hm => ?_⟩
    obtain ⟨pos', m', hnext, -⟩ := hother m gap' hm
    exact ⟨[], m, pos', m', .nil m, hnext, rfl⟩
  | @cons _ l₁ _ first t ts hnext ht hrest =>
    obtain ⟨gap, tail, hbefore, hpos, hlook, hother⟩ := next_before hnext hl
    refine ⟨gap, tail, first, t, hbefore, by rw [hnext], hpos, hlook, fun m gap' hm => ?_⟩
    obtain ⟨pos', m₁, hnext', hmoved⟩ := hother m gap' hm
    obtain ⟨us, m', hruns, hus, hend⟩ := hrest.moved keptByGlyphs_anyPlaces (hmoved ht)
    obtain ⟨pos'', e', hlast', -, -⟩ := hend.next keptByGlyphs_anyPlaces hlast
    refine ⟨_, m', pos'', e', .cons hnext' ht hruns, hlast', ?_⟩
    rw [List.map_cons, List.map_cons, ← List.forall₂_eq_eq_eq (α := Token)]
    refine .cons rfl ?_
    rw [List.forall₂_map_left_iff, List.forall₂_map_right_iff]
    exact hus.flip.imp fun x y hxy => hxy.2.symm

theorem length_ofChars_blanks {continues : Bool} {gap : List Char}
    (hgap : ∀ c ∈ gap, isBlank continues (.char c) = true) : (Bytes.ofChars gap).length = gap.length := by
  induction gap with
  | nil => rfl
  | cons c gap ih =>
    rw [List.forall_mem_cons] at hgap
    obtain ⟨d, hd, hspacing⟩ := exists_of_isBlank hgap.1
    obtain rfl := Glyph.char.inj hd
    have hwidth : (String.utf8EncodeChar c).length = 1 := by
      rcases eq_of_isSpacing hspacing with rfl | rfl | rfl | rfl <;> rfl
    rw [Bytes.ofChars_cons, List.length_append, hwidth, ih hgap.2, List.length_cons, Nat.add_comm]

/-- What is put into the blanks behind some tokens leaves these as they are. -/
theorem Runs.insert {cs : List Char} {gap : List Char} {tail : List Glyph} {k : Nat}
    (h : Runs (ofBytes (Bytes.ofChars cs)) ts l) (hgap : l.Before l.continues gap tail) (hbehind : l.pos.offset ≤ k)
    (hbefore : k ≤ (l.pos.afterAll (gap.map .char)).offset) :
    ∃ g₁ g₂ : List Char, gap = g₁ ++ g₂ ∧ ∀ w, isSpacing w →
      Runs (ofBytes ((Bytes.ofChars cs).take k ++ Bytes.ofChars [w] ++ (Bytes.ofChars cs).drop k)) ts
        { l with rest := (g₁ ++ w :: g₂).map .char ++ tail } := by
  obtain ⟨v, -, hrest, hpos, hswap⟩ := h.swap
  have hsplit : cs.map Glyph.char = (v ++ gap).map .char ++ tail := by
    rw [List.map_append, List.append_assoc, ← hgap.rest, ← hrest]
    exact (Utf8.glyphs_ofChars cs).symm
  obtain ⟨front, more, rfl, hfront, rfl⟩ := List.map_eq_append_iff.mp hsplit
  obtain rfl : front = v ++ gap := List.map_injective_iff.mpr (fun _ _ => Glyph.char.inj) hfront
  have hstart : l.pos.offset = (Bytes.ofChars v).length := hpos ▸ (Position.behind_afterAll v).offset
  have hend : (l.pos.afterAll (gap.map .char)).offset = (Bytes.ofChars v).length + gap.length := by
    rw [Position.offset_afterAll, flatMap_bytes_chars, hstart, length_ofChars_blanks hgap.blank]
  let g₁ := gap.take (k - (Bytes.ofChars v).length)
  let g₂ := gap.drop (k - (Bytes.ofChars v).length)
  have hgaps : gap = g₁ ++ g₂ := (List.take_append_drop _ _).symm
  have hk : (Bytes.ofChars (v ++ g₁)).length = k := by
    have hblank : ∀ c ∈ g₁, isBlank l.continues (.char c) = true := fun c hc => hgap.blank c (List.mem_of_mem_take hc)
    rw [Bytes.ofChars_append, List.length_append, length_ofChars_blanks hblank, List.length_take]
    omega
  have htext : Bytes.ofChars (v ++ gap ++ more) = Bytes.ofChars (v ++ g₁) ++ Bytes.ofChars (g₂ ++ more) := by
    rw [← Bytes.ofChars_append, hgaps]
    simp only [List.append_assoc]
  refine ⟨g₁, g₂, hgaps, fun w hw => ?_⟩
  have hahead : SameAhead l.rest ((g₁ ++ w :: g₂).map .char ++ more.map .char) := by
    rw [hgap.rest, hgaps]
    cases g₁ with
    | nil => exact .inr ⟨w, hw, rfl⟩
    | cons c g₁ => exact .inl rfl
  have hruns := hswap _ hahead
  have hwhole : ofBytes ((Bytes.ofChars (v ++ gap ++ more)).take k ++ Bytes.ofChars [w] ++
      (Bytes.ofChars (v ++ gap ++ more)).drop k) =
        { ofBytes (Bytes.ofChars (v ++ gap ++ more)) with
          rest := v.map .char ++ ((g₁ ++ w :: g₂).map .char ++ more.map .char) } := by
    rw [htext, List.take_left' hk, List.drop_left' hk, ← Bytes.ofChars_append, ← Bytes.ofChars_append, ofBytes,
      Utf8.glyphs_ofChars]
    simp only [List.append_assoc, List.map_append, List.map_cons, List.singleton_append]
    rfl
  rw [hwhole]
  exact hruns

end Lexer

open Lexer

/-- Point `k` of a text lies between what call `n` of the lexer returns and the token returned before it. -/
structure Between (text : Bytes) (n k : Nat) : Prop where
  positive : 0 < n
  le : n ≤ (ofBytes text).tokens.1.length
  behind : ((ofBytes text).after n).pos.offset ≤ k
  before : ∀ pos t, (ofBytes text).answer n = .token pos t → k ≤ pos.offset

/-- What may be put behind some tokens: a blank, or a line end where a bracket is open or the last token continues
its line. -/
def Fits (before : Tokens) (w : Char) : Prop :=
  w = ' ' ∨ w = '\t' ∨ w = '\r' ∨
    w = '\n' ∧ (0 < openBrackets before ∨ ∃ x, before.getLast? = some x ∧ x.2.continues = true)

theorem Fits.isSpacing {before : Tokens} {w : Char} (h : Fits before w) : isSpacing w := by
  rcases h with rfl | rfl | rfl | ⟨rfl, -⟩ <;> decide

/-- What fits is a blank there, or a line end where a bracket is open. -/
theorem Fits.cases {before : Tokens} {w : Char} (h : Fits before w) {l l' : Lexer} (hl : Runs l before l') :
    isBlank l'.continues (.char w) = true ∨ w = '\n' ∧ l'.continues = false ∧ 0 < openBrackets before := by
  rcases h with rfl | rfl | rfl | ⟨rfl, hopen⟩
  · exact .inl rfl
  · exact .inl rfl
  · exact .inl rfl
  · cases hcontinues : l'.continues with
    | true => exact .inl rfl
    | false =>
      refine .inr ⟨rfl, rfl, hopen.resolve_right ?_⟩
      rintro ⟨x, hx, hlast⟩
      rw [hl.continues_eq hx, hlast] at hcontinues
      cases hcontinues

/-- The tokens of a text with a character more that fits there: the same as before, or a line end more where a
bracket is open. -/
theorem Lexer.runs_layout {cs : List Char} {before rest : Tokens} {l lEnd e : Lexer} {pos : Position} {w : Char}
    {k : Nat} (hfirst : Runs (ofBytes (Bytes.ofChars cs)) before l) (hrest : Runs l rest lEnd)
    (hend : lEnd.next = (.token pos .endOfInput, e)) (hne : before ≠ []) (hbehind : l.pos.offset ≤ k)
    (hbefore : ∀ pos t, l.next.1 = .token pos t → k ≤ pos.offset) (hw : Fits before w) :
    ∃ (ts : Tokens) (l' : Lexer) (pos' : Position) (e' : Lexer),
      Runs (ofBytes ((Bytes.ofChars cs).take k ++ Bytes.ofChars [w] ++ (Bytes.ofChars cs).drop k)) ts l' ∧
      l'.next = (.token pos' .endOfInput, e') ∧
      (ts.map Prod.snd = (before ++ rest).map Prod.snd ∨
        0 < openBrackets before ∧ ∃ p, ts.map Prod.snd = (before ++ (p, .endOfLine) :: rest).map Prod.snd) := by
  have hunmarked : l.skipMark = l := skipMark_of_not_fresh (hfirst.isFresh_eq hne)
  obtain ⟨gap, tail, first, t, hgap, hanswer, rfl, hlook, hother⟩ := runs_before hrest hend hunmarked
  obtain ⟨g₁, g₂, rfl, hinsert⟩ := hfirst.insert hgap hbehind (hbefore _ _ hanswer)
  obtain ⟨hblank₁, hblank₂⟩ := List.forall_mem_append.mp hgap.blank
  have hruns₁ := hinsert w hw.isSpacing
  set l₁ : Lexer := { l with rest := (g₁ ++ w :: g₂).map .char ++ tail }
  have hunmarked₁ : l₁.skipMark = l₁ := skipMark_of_not_fresh (hfirst.isFresh_eq hne)
  rcases hw.cases hfirst with hblank | ⟨rfl, hline, hopen⟩
  · -- one blank more
    have hall : ∀ c ∈ g₁ ++ w :: g₂, isBlank l.continues (.char c) = true :=
      List.forall_mem_append.mpr ⟨hblank₁, List.forall_mem_cons.mpr ⟨hblank, hblank₂⟩⟩
    obtain ⟨us, l', pos', e', hruns, hend', hus⟩ := hother l₁ _ ⟨rfl, hall, rfl, hgap.stopped, hunmarked₁⟩
    exact ⟨before ++ us, l', pos', e', hruns₁.append hruns, hend', .inl (by simp only [List.map_append, hus])⟩
  · -- a line end more, which is a token
    have hnext := (yields_endOfLine (look_blanks_append hblank₂ hlook)).next_eq l₁ g₁ (g₂.map .char ++ tail) hline
      hgap.stopped (hline ▸ hblank₁) (.refl _) (by rw [hunmarked₁]; simp [l₁])
    obtain ⟨us, l', pos', e', hruns, hend', hus⟩ :=
      hother (l₁.behind (g₁ ++ ['\n']) .endOfLine (g₂.map .char ++ tail)) g₂
        ⟨rfl, hblank₂, hline.symm, rfl, skipMark_of_not_fresh rfl⟩
    exact ⟨before ++ (l₁.placeBehind g₁, .endOfLine) :: us, l', pos', e',
      hruns₁.append (.cons hnext (by simp) hruns), hend',
      .inr ⟨hopen, l₁.placeBehind g₁, by simp only [List.map_append, List.map_cons, hus]⟩⟩

/-- A text whose tokens are of the kinds of those of a tree is read, and stands for the same apart from places. -/
theorem parse_of_kinds {b : Bytes} {ts : Tokens} {l e : Lexer} {pos : Position} (h : Runs (ofBytes b) ts l)
    (hlast : l.next = (.token pos .endOfInput, e)) {f : FileTree} (hkinds : ts.map Prod.snd = f.tokens.map Prod.snd) :
    ∃ marks, parse b = .ok marks ∧ marks.map Mark.unplaced = f.marks.map Mark.unplaced := by
  obtain ⟨g, rfl, hmarks⟩ := FileTree.exists_of_kinds h.ne_endOfInput hkinds
  exact ⟨g.marks, parse_eq_ok_iff_runs.mpr ⟨g, l, e, pos, h, hlast, rfl⟩, hmarks⟩

/-- Blanks between tokens may be added, and line ends where a bracket is open or the line goes on: the text is read
as before, apart from places. -/
theorem parse_layout {text : Bytes} {marks : List Mark} {n k : Nat} {w : Char} (h : parse text = .ok marks)
    (hpoint : Between text n k) (hw : Fits ((ofBytes text).tokens.1.take n) w) :
    ∃ marks', parse (text.take k ++ Bytes.ofChars [w] ++ text.drop k) = .ok marks' ∧
      marks'.map Mark.unplaced = marks.map Mark.unplaced := by
  obtain ⟨cs, rfl⟩ := exists_chars_of_parse h
  obtain ⟨f, lEnd, e, pos, hruns, hend, rfl⟩ := parse_eq_ok_iff_runs.mp h
  have htokens : (ofBytes (Bytes.ofChars cs)).tokens.1 = f.tokens := by
    rw [hruns.tokens_eq, tokens_endOfInput hend, List.append_nil]
  obtain ⟨hpositive, hle, hbehind, hbefore⟩ := hpoint
  rw [htokens] at hle hw
  -- the tokens before the point and those behind it
  have hsplit := List.take_append_drop n f.tokens
  have hlength : (f.tokens.take n).length = n := List.length_take_of_le hle
  rw [← hsplit] at hruns
  obtain ⟨l, hfirst, hrest⟩ := hruns.split
  have hafter : (ofBytes (Bytes.ofChars cs)).after n = l := hlength ▸ hfirst.after_length
  have hne : f.tokens.take n ≠ [] := by
    rw [← List.length_pos_iff, hlength]
    exact hpositive
  rw [answer, hafter] at hbefore
  rw [hafter] at hbehind
  obtain ⟨ts, l', pos', e', hruns', hend', hkinds | ⟨hopen, p, hkinds⟩⟩ :=
    runs_layout hfirst hrest hend hne hbehind hbefore hw
  · rw [hsplit] at hkinds
    exact parse_of_kinds hruns' hend' hkinds
  · obtain ⟨f', htokens', hmarks⟩ := f.exists_lineEnd hsplit.symm hopen p
    rw [← htokens'] at hkinds
    rw [← hmarks]
    exact parse_of_kinds hruns' hend' hkinds

theorem parse_layout_comma :
    parse (Bytes.ofString "@A(b ,C)") = .ok
        [⟨⟨none, "A", ⟨1, 2, 1⟩⟩,
          some [.mk none (.ref ⟨none, "b", ⟨1, 4, 3⟩⟩), .mk none (.ref ⟨none, "C", ⟨1, 7, 6⟩⟩)], ⟨1, 1, 0⟩⟩] ∧
      Between (Bytes.ofString "@A(b ,C)") 4 4 ∧
      Fits ((ofBytes (Bytes.ofString "@A(b ,C)")).tokens.1.take 4) '\n' ∧
      ∃ marks, parse (Bytes.ofString "@A(b\n ,C)") = .ok marks ∧ marks.map Mark.unplaced =
        [⟨⟨none, "A", .start⟩,
          some [.mk none (.ref ⟨none, "b", .start⟩), .mk none (.ref ⟨none, "C", .start⟩)], .start⟩] := by
  have hread : parse (Bytes.ofString "@A(b ,C)") = .ok
      [⟨⟨none, "A", ⟨1, 2, 1⟩⟩,
        some [.mk none (.ref ⟨none, "b", ⟨1, 4, 3⟩⟩), .mk none (.ref ⟨none, "C", ⟨1, 7, 6⟩⟩)], ⟨1, 1, 0⟩⟩] := by rfl
  have hbefore : (ofBytes (Bytes.ofString "@A(b ,C)")).answer 4 = .token ⟨1, 6, 5⟩ (.rune ',') := by decide +kernel
  have hpoint : Between (Bytes.ofString "@A(b ,C)") 4 4 := by
    refine ⟨by decide, by decide +kernel, by decide +kernel, fun pos t h => ?_⟩
    obtain ⟨rfl, -⟩ := Lexeme.token.inj (hbefore.symm.trans h)
    decide
  have hw : Fits ((ofBytes (Bytes.ofString "@A(b ,C)")).tokens.1.take 4) '\n' :=
    .inr (.inr (.inr ⟨rfl, .inl (by decide +kernel)⟩))
  have htext : (Bytes.ofString "@A(b ,C)").take 4 ++ Bytes.ofChars ['\n'] ++ (Bytes.ofString "@A(b ,C)").drop 4 =
      Bytes.ofString "@A(b\n ,C)" := by decide +kernel
  obtain ⟨marks, hmarks, hsame⟩ := parse_layout hread hpoint hw
  exact ⟨hread, hpoint, hw, marks, htext ▸ hmarks, hsame⟩

end ServiceAnnotations.Mark
