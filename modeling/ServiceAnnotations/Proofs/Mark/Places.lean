import ServiceAnnotations.Proofs.Mark.Lexer
import ServiceAnnotations.Proofs.Text.Utf8

/-! # Tokens stand where their positions say

The position of a token is that of its first glyph: as many bytes and line ends come before it in the text as
the position counts. -/
namespace ServiceAnnotations.Mark
open Text

namespace Position

theorem offset_afterAll (p : Position) (gs : List Glyph) :
    (p.afterAll gs).offset = p.offset + (gs.flatMap Glyph.bytes).length := by
  induction gs generalizing p with
  | nil => rfl
  | cons g gs ih =>
    rw [afterAll_cons, ih, offset_after, List.flatMap_cons, List.length_append, Glyph.length_bytes]
    omega

theorem line_afterAll (p : Position) {gs : List Glyph} (hgs : .stray 0x0a ∉ gs) :
    (p.afterAll gs).line = p.line + (gs.flatMap Glyph.bytes).count 0x0a := by
  induction gs generalizing p with
  | nil => rfl
  | cons g gs ih =>
    obtain ⟨hg, hgs⟩ := List.ne_and_not_mem_of_not_mem_cons hgs
    rw [afterAll_cons, ih _ hgs, List.flatMap_cons, List.count_append, Glyph.count_bytes hg.symm, after]
    split
    · simp only
      omega
    · simp

end Position

/-- The place behind a text whose last line has ended. -/
theorem end_of_text {text : Bytes} (h : text.getLast? = some 0x0a) :
    Position.start.afterAll (Utf8.glyphs text) = ⟨1 + text.count 0x0a, 1, text.length⟩ := by
  have hstray := Utf8.stray_not_mem_glyphs (b := 0x0a) (by decide) text
  have hbytes := Utf8.flatMap_bytes_glyphs text
  have hoffset := Position.offset_afterAll .start (Utf8.glyphs text)
  have hline := Position.line_afterAll .start hstray
  rw [hbytes] at hoffset hline
  have hcolumn : (Position.start.afterAll (Utf8.glyphs text)).column = 1 := by
    rcases List.eq_nil_or_concat (Utf8.glyphs text) with hnil | ⟨front, g, hconcat⟩
    · rw [hnil] at hbytes
      rw [← hbytes] at h
      cases h
    · rw [List.concat_eq_append] at hconcat
      rw [hconcat, List.flatMap_append] at hbytes
      rw [hconcat] at hstray
      have hg : g ≠ .stray 0x0a := fun hg => hstray (hg ▸ List.mem_append_right _ List.mem_cons_self)
      have hlast : 0x0a ∈ g.bytes := by
        rw [← hbytes, List.flatMap_singleton, List.getLast?_append, List.getLast?_eq_some_getLast g.bytes_ne_nil] at h
        exact Option.some.inj h ▸ List.getLast_mem g.bytes_ne_nil
      rw [hconcat, Position.afterAll_append, (Glyph.mem_bytes_iff hg).mp hlast]
      rfl
  have hend : Position.start.afterAll (Utf8.glyphs text) =
      ⟨(Position.start.afterAll (Utf8.glyphs text)).line, (Position.start.afterAll (Utf8.glyphs text)).column,
        (Position.start.afterAll (Utf8.glyphs text)).offset⟩ := rfl
  rw [hend, hline, hcolumn, hoffset]
  exact congrArg _ (Nat.zero_add _)

def ReadsAt (gs : List Glyph) (pos : Position) (t : Token) : Prop :=
  ∃ before g after, gs = before ++ g :: after ∧ pos = Position.start.afterAll before ∧
    Token.ofSpelling (scanToken g after).1 g (spelling (g :: after) (scanToken g after).2.rest) = .ok t

/-- A token stands at a position of a text. -/
def StandsAt (text : Bytes) (pos : Position) (t : Token) : Prop := ReadsAt (Utf8.glyphs text) pos t

theorem ofSpelling_eq_endOfLine_iff {g : Glyph} {after : List Glyph} {cs : List Char} {t : Token}
    (h : Token.ofSpelling (scanToken g after).1 g cs = .ok t) : t = .endOfLine ↔ g = .char '\n' := by
  constructor
  · rintro rfl
    unfold Token.ofSpelling at h
    split at h
    · simp only [Except.ok.injEq] at h
      split at h
      · cases h
      · split at h <;> cases h
    · cases h
    · cases h
    · cases h
    · cases h
    · cases h
    · simp only [Except.ok.injEq] at h
      split at h
      · assumption
      · cases h
  · rintro rfl
    exact (Except.ok.inj h).symm

/-- The first byte of a token stands behind as many bytes and line ends as its position counts. -/
theorem StandsAt.bytes {text : Bytes} {pos : Position} {t : Token} (h : StandsAt text pos t) :
    ∃ before b after, text = before ++ b :: after ∧ pos.offset = before.length ∧
      pos.line = 1 + before.count 0x0a ∧ (b = 0x0a ↔ t = .endOfLine) := by
  obtain ⟨before, g, after, hglyphs, rfl, htoken⟩ := h
  have hstray : .stray 0x0a ∉ before ++ g :: after := hglyphs ▸ Utf8.stray_not_mem_glyphs (by decide) text
  obtain ⟨hbefore, hg⟩ : .stray 0x0a ∉ before ∧ g ≠ .stray 0x0a := by
    simp only [List.mem_append, List.mem_cons, not_or] at hstray
    exact ⟨hstray.1, fun h => hstray.2.1 h.symm⟩
  have htext := Utf8.flatMap_bytes_glyphs text
  rw [hglyphs, List.flatMap_append, List.flatMap_cons] at htext
  obtain ⟨b, more, hbytes⟩ := List.exists_cons_of_ne_nil g.bytes_ne_nil
  rw [hbytes, List.cons_append] at htext
  refine ⟨_, b, _, htext.symm, ?_, ?_, ?_⟩
  · rw [Position.offset_afterAll]
    exact Nat.zero_add _
  · rw [Position.line_afterAll _ hbefore]
    rfl
  · rw [ofSpelling_eq_endOfLine_iff htoken]
    constructor
    · rintro rfl
      exact (Glyph.mem_bytes_iff hg).mp (hbytes ▸ List.mem_cons_self)
    · rintro rfl
      exact (List.cons.inj hbytes).1.symm

theorem consumed_append {whole rest : List Glyph} (h : rest <:+ whole) : consumed whole rest ++ rest = whole := by
  obtain ⟨front, rfl⟩ := h
  simp [consumed]

namespace Lexer

/-- A lexer within a text: it has come as far as its position says. A byte order mark that it would pass over
is not in front of it. -/
structure Within (gs : List Glyph) (l : Lexer) : Prop where
  split : ∃ before, gs = before ++ l.rest ∧ l.pos = Position.start.afterAll before
  noMark : l.isFresh = true → l.rest.head? ≠ some (.char '\ufeff')

/-- What reading a token in a text comes to: the end, or a token with the lexer behind it. -/
def Reads (gs : List Glyph) (pos : Position) (t : Token) (l : Lexer) : Prop :=
  (t = .endOfInput ∧ pos = Position.start.afterAll gs) ∨ (t ≠ .endOfInput ∧ ReadsAt gs pos t ∧ l.Within gs)

variable {gs : List Glyph} {l l' : Lexer} {pos : Position} {t : Token}

theorem Within.skipMark (hl : l.Within gs) : l.skipMark = l := skipMark_of_unmarked hl.noMark

theorem Within.skipBlanks (hl : l.Within gs) (hblank : (l.rest.takeWhile (isBlank l.continues)).isEmpty = false) :
    l.skipBlanks.Within gs := by
  obtain ⟨before, hsplit, hpos⟩ := hl.split
  constructor
  · refine ⟨before ++ l.rest.takeWhile (isBlank l.continues), ?_, ?_⟩
    · rw [List.append_assoc, Lexer.skipBlanks, List.takeWhile_append_dropWhile]
      exact hsplit
    · rw [Position.afterAll_append, ← hpos]
      rfl
  · -- a blank was read, so this is not the start of the text any more
    intro hfresh
    cases hrest : l.rest with
    | nil => simp [hrest] at hblank
    | cons g rest =>
      by_cases hg : isBlank l.continues g = true
      · simp [Lexer.skipBlanks, hrest, hg] at hfresh
      · simp [hrest, hg] at hblank

theorem Within.readToken (hl : l.Within gs) {lineEnd : Option Position}
    (h : l.readToken l.pos lineEnd = (.token pos t, l')) : Reads gs pos t l' := by
  obtain ⟨before, hsplit, hpos⟩ := hl.split
  unfold Lexer.readToken at h
  cases hrest : l.rest with
  | nil =>
    rw [hrest] at h hsplit
    obtain ⟨⟨rfl, rfl⟩, -⟩ := by simpa only [Prod.mk.injEq, Lexeme.token.injEq] using h
    refine .inl ⟨rfl, ?_⟩
    rw [hpos, hsplit, List.append_nil]
  | cons g tail =>
    rw [hrest] at h hsplit
    dsimp only at h
    split at h
    · cases h
    · split at h
      · cases h
      · rename_i t' htoken
        obtain ⟨⟨rfl, rfl⟩, rfl⟩ := by simpa only [Prod.mk.injEq, Lexeme.token.injEq] using h
        refine .inr ⟨fun hend => ofSpelling_ne_endOfInput (hend ▸ htoken),
          ⟨before, g, tail, hsplit, hpos, htoken⟩, ?_, fun hfresh => by cases hfresh⟩
        have hsuffix : (scanToken g tail).2.rest <:+ g :: tail :=
          (suffix_scanToken g tail).trans (List.suffix_cons g tail)
        refine ⟨before ++ consumed (g :: tail) (scanToken g tail).2.rest, ?_, ?_⟩
        · rw [List.append_assoc, consumed_append hsuffix]
          exact hsplit
        · rw [Position.afterAll_append, ← hpos]

theorem Within.next (hl : l.Within gs) (h : l.next = (.token pos t, l')) : Reads gs pos t l' := by
  unfold Lexer.next at h
  split at h
  · cases h
  · simp only [hl.skipMark] at h
    split at h
    · exact hl.readToken h
    · rename_i hblank
      split at h
      · cases h
      · exact (hl.skipBlanks (by simpa using hblank)).readToken h

theorem tokensWithin_within (fuel : Nat) (hl : l.Within gs) :
    (∀ x ∈ (tokensWithin fuel l).1, ReadsAt gs x.1 x.2) ∧
      ∀ pos, (tokensWithin fuel l).2.1 = .token pos .endOfInput → pos = Position.start.afterAll gs := by
  induction fuel generalizing l with
  | zero =>
    refine ⟨by simp [tokensWithin], ?_⟩
    intro pos h
    have hnext : l.next = (.token pos .endOfInput, l.next.2) := Prod.ext h rfl
    rcases hl.next hnext with ⟨-, hend⟩ | ⟨hne, -⟩
    · exact hend
    · exact absurd rfl hne
  | succ fuel ih =>
    rcases hnext : l.next with ⟨⟨pos, t⟩ | ⟨pos, e⟩, l'⟩
    · rcases hl.next hnext with ⟨rfl, hend⟩ | ⟨hne, hread, hl'⟩
      · refine ⟨by simp [tokensWithin, hnext], ?_⟩
        intro pos' h
        simp only [tokensWithin, hnext, Lexeme.token.injEq, and_true] at h
        exact h ▸ hend
      · rw [tokensWithin_token hnext hne]
        exact ⟨List.forall_mem_cons.mpr ⟨hread, (ih hl').1⟩, (ih hl').2⟩
    · simp [tokensWithin, hnext]

/-- A lexer at the start of a text, which does not start with a byte order mark, is within it. -/
theorem within_ofGlyphs (h : gs.head? ≠ some (.char '\ufeff')) : (ofGlyphs gs).Within gs :=
  ⟨⟨[], rfl, rfl⟩, fun _ => h⟩

/-- The tokens of a text stand where their positions say, and its end comes behind all of it. -/
theorem tokens_stand {text : Bytes} (h : (Utf8.glyphs text).head? ≠ some (.char '\ufeff')) :
    (∀ x ∈ (ofBytes text).tokens.1, StandsAt text x.1 x.2) ∧
      ∀ pos, (ofBytes text).tokens.2.1 = .token pos .endOfInput →
        pos = Position.start.afterAll (Utf8.glyphs text) :=
  tokensWithin_within (ofBytes text).rest.length (within_ofGlyphs h)

end Lexer
end ServiceAnnotations.Mark
