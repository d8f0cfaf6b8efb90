import ServiceAnnotations.Proofs.Mark.Accepted

/-! # Texts put together

Annotations of one text do not bear on those of another: two texts that are read, with a line end between them, are
read as the annotations of both. Those of the second one have moved as far as the first one reaches. -/
namespace ServiceAnnotations.Mark
open Text

def FileTree.join : FileTree → Position → FileTree → FileTree
  | done, pos, g => lineEnd pos g
  | lineEnd p rest, pos, g => lineEnd p (rest.join pos g)
  | mark m p rest, pos, g => mark m p (rest.join pos g)
  | lastMark m, pos, g => mark m pos g

theorem FileTree.tokens_join (f : FileTree) (pos : Position) (g : FileTree) :
    (f.join pos g).tokens = f.tokens ++ (pos, .endOfLine) :: g.tokens := by
  induction f with
  | done => rfl
  | lineEnd p rest ih => rw [join, tokens, ih, tokens, List.cons_append]
  | mark m p rest ih => rw [join, tokens, ih, tokens, List.append_assoc, List.cons_append]
  | lastMark m => rfl

theorem FileTree.marks_join (f : FileTree) (pos : Position) (g : FileTree) :
    (f.join pos g).marks = f.marks ++ g.marks := by
  induction f with
  | done => rfl
  | lineEnd p rest ih => exact ih
  | mark m p rest ih => rw [join, marks, ih, marks, List.cons_append]
  | lastMark m => rfl

/-- The place so many lines down and bytes on. -/
def Position.moved (lines bytes : Nat) (p : Position) : Position := ⟨p.line + lines, p.column, p.offset + bytes⟩

theorem Position.after_moved (lines bytes : Nat) (p : Position) (g : Glyph) :
    (p.moved lines bytes).after g = (p.after g).moved lines bytes := by
  unfold after moved
  split <;> simp only [mk.injEq, true_and] <;> omega

theorem keptByGlyphs_moved (lines bytes : Nat) : Lexer.KeptByGlyphs fun p q => q = p.moved lines bytes := by
  rintro p _ g rfl
  rw [Position.after_moved]

namespace Lexer

variable {l l' : Lexer} {pos : Position}

theorem skipMark_append_lineEnd (l : Lexer) (rest : List Glyph) :
    ({ l with rest := l.rest ++ .char '\n' :: rest } : Lexer).skipMark =
      { l.skipMark with rest := l.skipMark.rest ++ .char '\n' :: rest } := by
  obtain ⟨hfresh, tail, htail, hskip⟩ | ⟨hunmarked, hskip⟩ := l.skipMark_cases <;> rw [hskip]
  · exact skipMark_of_mark hfresh (by simp [htail])
  · refine skipMark_of_unmarked fun hfresh => ?_
    have hhead := hunmarked hfresh
    cases hl : l.rest with
    | nil => simp
    | cons g gs => simpa [hl] using hhead

theorem afterAll_skipMark (l : Lexer) : l.skipMark.pos.afterAll l.skipMark.rest = l.pos.afterAll l.rest := by
  obtain ⟨-, tail, htail, hskip⟩ | ⟨-, hskip⟩ := l.skipMark_cases <;> rw [hskip]
  rw [htail, Position.afterAll_cons]

/-- Behind a text that ends, the line end of the next one is a token. -/
theorem next_append_lineEnd (h : l.next = (.token pos .endOfInput, l')) (hl : l.continues = false) {rest : List Glyph}
    (hrest : look rest none = none) :
    ∃ pos', ({ l with rest := l.rest ++ .char '\n' :: rest } : Lexer).next =
      (.token pos' .endOfLine, ⟨rest, l.pos.afterAll (l.rest ++ [.char '\n']), false, false, none⟩) := by
  obtain ⟨hstopped, gap, hgap, -, ⟨-, hgap', -⟩ | ⟨cs, -, hyields, -⟩⟩ := next_token_cases h
  · have hskip := skipMark_append_lineEnd l rest
    have hnext := (yields_endOfLine hrest).next_eq { l with rest := l.rest ++ .char '\n' :: rest } gap rest hl hstopped
      (hl ▸ hgap) (.refl rest) (by rw [hskip]; simp [hgap'])
    refine ⟨_, hnext.trans (congrArg (Prod.mk _) ?_)⟩
    have hpos := l.afterAll_skipMark
    rw [hgap'] at hpos
    rw [behind, hskip, List.map_append, Position.afterAll_append, hpos, Position.afterAll_append]
    rfl
  · cases hyields.spells

/-- A text whose first token is read starts with no glyph that a text may not hold. -/
theorem look_of_token {t : Token} (h : l.next = (.token pos t, l')) : look l.skipMark.rest none = none := by
  obtain ⟨-, gap, hgap, -, ⟨-, hrest, -⟩ | ⟨cs, hrest, hyields, -⟩⟩ := next_token_cases h
  · rw [hrest, ← List.append_nil (gap.map Glyph.char)]
    exact look_blanks_append hgap rfl
  · rw [hrest, List.map_append, List.append_assoc]
    exact look_blanks_append hgap (hyields.starts _)

theorem look_of_runs {ts : Tokens} {l₁ : Lexer} (h : Runs l ts l₁) (hlast : l₁.next = (.token pos .endOfInput, l')) :
    look l.skipMark.rest none = none := by
  cases h with
  | nil => exact look_of_token hlast
  | cons hnext => exact look_of_token hnext

end Lexer

theorem glyphs_append_lineEnd (cs : List Char) (rest : Bytes) :
    Utf8.glyphs (Bytes.ofChars cs ++ 0x0a :: rest) = cs.map .char ++ .char '\n' :: Utf8.glyphs rest := by
  have hsplit : Bytes.ofChars cs ++ 0x0a :: rest = Bytes.ofChars (cs ++ ['\n']) ++ rest := by
    rw [Bytes.ofChars_append, List.append_assoc]
    rfl
  rw [hsplit, Utf8.glyphs_ofChars_append]
  simp

namespace Lexer

/-- The tokens of a text are read in front of a second one, and then the line end between them. -/
theorem Runs.append_lineEnd {cs : List Char} {ts : Tokens} {l l' : Lexer} {pos : Position}
    (h : Runs (ofBytes (Bytes.ofChars cs)) ts l) (hlast : l.next = (.token pos .endOfInput, l'))
    (hl : l.continues = false) {rest : Bytes} (hrest : look (Utf8.glyphs rest) none = none) :
    ∃ p, Runs (ofBytes (Bytes.ofChars cs ++ 0x0a :: rest)) (ts ++ [(p, .endOfLine)])
      ⟨Utf8.glyphs rest,
        Position.start.moved ((Bytes.ofChars cs).count 0x0a + 1) ((Bytes.ofChars cs).length + 1),
        false, false, none⟩ := by
  obtain ⟨v, -, hsplit, hpos, hswap⟩ := h.swap
  have hcs : cs.map Glyph.char = v.map .char ++ l.rest := (Utf8.glyphs_ofChars cs).symm.trans hsplit
  have hahead : SameAhead l.rest (l.rest ++ .char '\n' :: Utf8.glyphs rest) := by
    cases l.rest with
    | nil => exact .inr ⟨'\n', by decide, rfl⟩
    | cons g gs => exact .inl rfl
  have hfirst := hswap _ hahead
  have hwhole : ofBytes (Bytes.ofChars cs ++ 0x0a :: rest) =
      { ofBytes (Bytes.ofChars cs) with rest := v.map .char ++ (l.rest ++ .char '\n' :: Utf8.glyphs rest) } := by
    rw [← List.append_assoc, ← hcs, ← glyphs_append_lineEnd]
    rfl
  have hend : l.pos.afterAll (l.rest ++ [.char '\n']) =
      Position.start.moved ((Bytes.ofChars cs).count 0x0a + 1) ((Bytes.ofChars cs).length + 1) := by
    have hlast : (Bytes.ofChars cs ++ [0x0a]).getLast? = some 0x0a := List.getLast?_concat
    have htext := end_of_text hlast
    rw [glyphs_append_lineEnd, hcs, List.append_assoc, Position.afterAll_append] at htext
    rw [hpos]
    refine htext.trans ?_
    simp [Position.moved, Position.start, Nat.add_comm]
  obtain ⟨p, hline⟩ := next_append_lineEnd hlast hl hrest
  rw [hend] at hline
  rw [hwhole]
  exact ⟨p, hfirst.append (.cons hline (by simp) (.nil _))⟩

/-- The tokens of a text, read further down in another one. -/
theorem Runs.moved_down {s : Bytes} {ts : Tokens} {l l' : Lexer} {pos : Position} (h : Runs (ofBytes s) ts l)
    (hlast : l.next = (.token pos .endOfInput, l')) (hmark : (Utf8.glyphs s).head? ≠ some (.char '\ufeff'))
    (lines bytes : Nat) :
    ∃ m pos' m', Runs ⟨Utf8.glyphs s, Position.start.moved lines bytes, false, false, none⟩
      (ts.map (Prod.map (Position.moved lines bytes) id)) m ∧ m.next = (.token pos' .endOfInput, m') := by
  have hkept := keptByGlyphs_moved lines bytes
  have hstart : Moved (fun p q => q = p.moved lines bytes) (ofBytes s)
      ⟨Utf8.glyphs s, Position.start.moved lines bytes, false, false, none⟩ :=
    ⟨rfl, rfl, rfl, (within_ofGlyphs hmark).skipMark, rfl, rfl⟩
  obtain ⟨us, m, hruns, hus, hm⟩ := h.moved hkept hstart
  obtain ⟨pos', m', hnext, -, -⟩ := hm.next hkept hlast
  have hmap : us = ts.map (Prod.map (Position.moved lines bytes) id) := by
    rw [← List.forall₂_eq_eq_eq, List.forall₂_map_right_iff]
    exact hus.flip.imp fun x y hxy => Prod.ext hxy.1 hxy.2.symm
  exact ⟨m, pos', m', hmap ▸ hruns, hnext⟩

end Lexer

open Lexer in
/-- Two texts that are read, with a line end between them, are read one after the other. -/
theorem parse_join {s₁ s₂ : Bytes} {m₁ m₂ : List Mark} (h₁ : parse s₁ = .ok m₁) (h₂ : parse s₂ = .ok m₂)
    (hmark : (Utf8.glyphs s₂).head? ≠ some (.char '\ufeff')) :
    parse (s₁ ++ 0x0a :: s₂) =
      .ok (m₁ ++ m₂.map (Mark.mapPos (Position.moved (s₁.count 0x0a + 1) (s₁.length + 1)))) := by
  obtain ⟨cs, rfl⟩ := exists_chars_of_parse h₁
  obtain ⟨f₁, l₁, end₁, pos₁, hruns₁, hend₁, rfl⟩ := parse_eq_ok_iff_runs.mp h₁
  obtain ⟨f₂, l₂, end₂, pos₂, hruns₂, hend₂, rfl⟩ := parse_eq_ok_iff_runs.mp h₂
  have hlook : look (Utf8.glyphs s₂) none = none := by
    have hunmarked : (ofBytes s₂).skipMark = ofBytes s₂ := (within_ofGlyphs hmark).skipMark
    have hstart := look_of_runs hruns₂ hend₂
    rw [hunmarked] at hstart
    exact hstart
  obtain ⟨p, hfirst⟩ := hruns₁.append_lineEnd hend₁ (hruns₁.continues_of_endsLine f₁.endsLine rfl) hlook
  obtain ⟨m, pos, m', hsecond, hend⟩ := hruns₂.moved_down hend₂ hmark ((Bytes.ofChars cs).count 0x0a + 1)
    ((Bytes.ofChars cs).length + 1)
  obtain ⟨g, htokens, hmarks⟩ := FileTree.exists_mapPos hruns₂.ne_endOfInput
    (Position.moved ((Bytes.ofChars cs).count 0x0a + 1) ((Bytes.ofChars cs).length + 1))
  have hruns := hfirst.append hsecond
  rw [← htokens, List.append_assoc, List.singleton_append, ← FileTree.tokens_join] at hruns
  exact parse_eq_ok_iff_runs.mpr ⟨f₁.join p g, m, m', pos, hruns, hend, by rw [FileTree.marks_join, hmarks]⟩

theorem parse_join_two :
    parse (Bytes.ofString "@A(\n B)") = .ok
        [⟨⟨none, "A", ⟨1, 2, 1⟩⟩, some [.mk none (.ref ⟨none, "B", ⟨2, 2, 5⟩⟩)], ⟨1, 1, 0⟩⟩] ∧
      parse (Bytes.ofString " @C") = .ok [⟨⟨none, "C", ⟨1, 3, 2⟩⟩, none, ⟨1, 2, 1⟩⟩] ∧
      (Utf8.glyphs (Bytes.ofString " @C")).head? ≠ some (.char '\ufeff') ∧
      parse (Bytes.ofString "@A(\n B)\n @C") = .ok
        [⟨⟨none, "A", ⟨1, 2, 1⟩⟩, some [.mk none (.ref ⟨none, "B", ⟨2, 2, 5⟩⟩)], ⟨1, 1, 0⟩⟩,
          ⟨⟨none, "C", ⟨3, 3, 10⟩⟩, none, ⟨3, 2, 9⟩⟩] := by
  have hfirst : parse (Bytes.ofString "@A(\n B)") = .ok
      [⟨⟨none, "A", ⟨1, 2, 1⟩⟩, some [.mk none (.ref ⟨none, "B", ⟨2, 2, 5⟩⟩)], ⟨1, 1, 0⟩⟩] := by rfl
  have hsecond : parse (Bytes.ofString " @C") = .ok [⟨⟨none, "C", ⟨1, 3, 2⟩⟩, none, ⟨1, 2, 1⟩⟩] := by rfl
  have hmark : (Utf8.glyphs (Bytes.ofString " @C")).head? ≠ some (.char '\ufeff') := by decide +kernel
  exact ⟨hfirst, hsecond, hmark, parse_join hfirst hsecond hmark⟩

end ServiceAnnotations.Mark
