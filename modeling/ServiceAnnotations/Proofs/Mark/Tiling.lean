import Mathlib.Data.List.DropRight
import ServiceAnnotations.Proofs.Mark.Runs

/-! # Tokens tile their text

A text is its tokens, one behind the other, with nothing between them but blanks. Every token stands exactly where
its position says. Line ends are blanks only behind tokens that continue their line; every other line end is a
token, or part of a raw text. -/
namespace ServiceAnnotations.Mark
open Text

/-- A place behind characters: its offset counts their bytes, its line their line ends, and its column the
characters behind the last line end. -/
structure Position.Behind (p : Position) (before : List Char) : Prop where
  offset : p.offset = (Bytes.ofChars before).length
  line : p.line = 1 + before.count '\n'
  column : p.column = 1 + (before.rtakeWhile (· ≠ '\n')).length

theorem flatMap_bytes_chars (cs : List Char) : (cs.map Glyph.char).flatMap Glyph.bytes = Bytes.ofChars cs := by
  rw [List.flatMap_map]
  rfl

theorem Position.behind_afterAll (cs : List Char) : (Position.start.afterAll (cs.map .char)).Behind cs := by
  induction cs using List.reverseRecOn with
  | nil => exact ⟨rfl, rfl, rfl⟩
  | append_singleton cs c ih =>
    have hoffset := Position.offset_afterAll .start ((cs ++ [c]).map .char)
    rw [flatMap_bytes_chars] at hoffset
    refine ⟨hoffset.trans (Nat.zero_add _), ?_, ?_⟩ <;>
      rw [List.map_append, Position.afterAll_append, List.map_singleton, afterAll_cons, afterAll_nil, after]
    · by_cases hc : c = '\n'
      · simp [hc, ih.line, Nat.add_assoc]
      · simp [hc, ih.line]
    · by_cases hc : c = '\n'
      · simp [hc]
      · simp [hc, ih.column, Nat.add_assoc]

/-- What may stand between tokens: a line end only if the token before it continues its line. -/
def Separates (continues : Bool) (c : Char) : Prop :=
  c = ' ' ∨ c = '\t' ∨ c = '\r' ∨ continues = true ∧ c = '\n'

theorem isBlank_char_iff {continues : Bool} {c : Char} :
    Lexer.isBlank continues (.char c) = true ↔ Separates continues c := by
  simp [Lexer.isBlank, Separates, or_assoc]

/-- A token of a text with its characters, its place, and the blanks before it. -/
structure Piece where
  gap : List Char
  source : List Char
  pos : Position
  token : Token

def Piece.entry (x : Piece) : Position × Token := (x.pos, x.token)

/-- Pieces that lead from one point of a text to another. At each point, what has been read is known and whether
the last token continues its line. -/
inductive Tiles : (read : List Char) → (continues : Bool) → List Piece → List Char → Bool → Prop
  | nil (read : List Char) (continues : Bool) : Tiles read continues [] read continues
  | cons {read read' : List Char} {continues continues' : Bool} {x : Piece} {pieces : List Piece}
      (hgap : ∀ c ∈ x.gap, Separates continues c) (hspells : Spells x.source x.token)
      (hpos : x.pos.Behind (read ++ x.gap))
      (hrest : Tiles (read ++ x.gap ++ x.source) x.token.continues pieces read' continues') :
      Tiles read continues (x :: pieces) read' continues'

theorem Spells.length_pos {cs : List Char} {t : Token} (h : Spells cs t) : 0 < (Bytes.ofChars cs).length := by
  obtain ⟨c, cs, rfl⟩ := List.exists_cons_of_ne_nil h.ne_nil
  have hsize := c.utf8Size_pos
  simp only [Bytes.ofChars_cons, List.length_append, String.length_utf8EncodeChar]
  omega

namespace Tiles

variable {read read' : List Char} {continues continues' : Bool} {pieces : List Piece}

theorem length_le (h : Tiles read continues pieces read' continues') :
    (Bytes.ofChars read).length ≤ (Bytes.ofChars read').length := by
  induction h with
  | nil => exact Nat.le_refl _
  | cons _ _ _ _ ih =>
    simp only [Bytes.ofChars_append, List.length_append] at ih
    omega

theorem offset_bounds (h : Tiles read continues pieces read' continues') :
    ∀ x ∈ pieces, (Bytes.ofChars read).length ≤ x.pos.offset ∧ x.pos.offset < (Bytes.ofChars read').length := by
  induction h with
  | nil => simp
  | cons _ hspells hpos hrest ih =>
    have hsource := hspells.length_pos
    have hend := hrest.length_le
    have hoffset := hpos.offset
    simp only [Bytes.ofChars_append, List.length_append] at ih hend hoffset
    refine List.forall_mem_cons.mpr ⟨by omega, fun y hy => ?_⟩
    have := ih y hy
    omega

/-- Every token stands behind the one before it. -/
theorem offsets_ascend (h : Tiles read continues pieces read' continues') :
    (pieces.map (·.pos.offset)).Pairwise (· < ·) := by
  induction h with
  | nil => exact .nil
  | cons _ hspells hpos hrest ih =>
    refine List.pairwise_cons.mpr ⟨fun offset hmem => ?_, ih⟩
    obtain ⟨y, hy, rfl⟩ := List.mem_map.mp hmem
    have hsource := hspells.length_pos
    have hle := (hrest.offset_bounds y hy).1
    have hoffset := hpos.offset
    simp only [Bytes.ofChars_append, List.length_append] at hle hoffset ⊢
    omega

/-- A line end in a token is the whole token, or part of a raw text. -/
theorem token_of_lineEnd (h : Tiles read continues pieces read' continues') :
    ∀ x ∈ pieces, '\n' ∈ x.source →
      x.source = ['\n'] ∧ x.token = .endOfLine ∨ ∃ value, x.token = .rawText value := by
  induction h with
  | nil => simp
  | cons _ hspells _ _ ih => exact List.forall_mem_cons.mpr ⟨hspells.token_of_lineEnd, ih⟩

end Tiles

namespace Lexer

theorem after_add (l : Lexer) (m n : Nat) : l.after (m + n) = (l.after m).after n := by
  induction m generalizing l with
  | zero => rw [Nat.zero_add, after]
  | succ m ih => rw [Nat.succ_add, after, after, ih]

theorem after_eq_self {l : Lexer} (h : l.next.2 = l) (n : Nat) : l.after n = l := by
  induction n with
  | zero => rfl
  | succ n ih => rw [after, h, ih]

theorem next_stopped {l : Lexer} {e : LexError} (h : l.stopped = some e) : l.next = (.failure none e, l) := by
  unfold next
  rw [h]

theorem readToken_failure {l l' : Lexer} {pos : Position} {lineEnd place : Option Position} {e : LexError}
    (h : l.readToken pos lineEnd = (.failure place e, l')) : l'.stopped = some e := by
  unfold readToken at h
  split at h
  · cases h
  · dsimp only at h
    split at h
    · cases h
      rfl
    · split at h <;> cases h
      rfl

theorem next_failure {l l' : Lexer} {place : Option Position} {e : LexError} (h : l.next = (.failure place e, l')) :
    l'.stopped = some e := by
  unfold next at h
  split at h
  · rename_i hstopped
    cases h
    exact hstopped
  · dsimp only at h
    split at h
    · exact readToken_failure h
    · split at h
      · cases h
        rfl
      · exact readToken_failure h

theorem answer_of_failure {l l' : Lexer} {place : Option Position} {e : LexError}
    (h : l.next = (.failure place e, l')) (n : Nat) : l.answer (n + 1) = .failure none e := by
  have hstop := next_stopped (next_failure h)
  rw [answer, after, h, after_eq_self (by rw [hstop]), hstop]

theorem answer_of_endOfInput {l l' : Lexer} {pos : Position} (hunmarked : l.skipMark = l)
    (h : l.next = (.token pos .endOfInput, l')) (n : Nat) : l.answer n = .token pos .endOfInput := by
  cases n with
  | zero => rw [answer, after, h]
  | succ n =>
    obtain ⟨-, gap, -, rfl, ⟨-, -, rfl⟩ | ⟨cs, -, hyields, -⟩⟩ := next_token_cases h
    · generalize hend : (⟨[], _, false, l.continues, none⟩ : Lexer) = l'
      have hnext : l'.next = (.token l'.pos .endOfInput, l') := by
        have hgap : ∀ c ∈ ([] : List Char), isBlank l'.continues (.char c) = true := by simp
        subst hend
        exact next_endOfInput rfl hgap rfl
      rw [answer, after, h, hend, after_eq_self (by rw [hnext]), hnext, ← hend, placeBehind_of_unmarked hunmarked,
        hunmarked]
    · cases hyields.spells

theorem Runs.tiles {l l' : Lexer} {ts : List (Position × Token)} (h : Runs l ts l') (hunmarked : l.skipMark = l)
    {read : List Char} (hpos : l.pos = Position.start.afterAll (read.map .char)) :
    ∃ (pieces : List Piece) (read' : List Char), ts = pieces.map Piece.entry ∧
      Tiles read l.continues pieces read' l'.continues ∧
      read.map .char ++ l.rest = read'.map .char ++ l'.rest ∧
      l'.pos = Position.start.afterAll (read'.map .char) ∧ l'.skipMark = l' := by
  induction h generalizing read with
  | nil l => exact ⟨[], read, rfl, .nil _ _, rfl, hpos, hunmarked⟩
  | @cons l l₁ l' pos t ts hnext ht hrest ih =>
    obtain ⟨-, gap, hgap, rfl, ⟨rfl, -, -⟩ | ⟨cs, hsplit, hyields, hl₁⟩⟩ := next_token_cases hnext
    · exact absurd rfl ht
    rw [hunmarked] at hsplit
    have hplace : l.placeBehind gap = Position.start.afterAll ((read ++ gap).map .char) := by
      rw [placeBehind_of_unmarked hunmarked, hpos, List.map_append, Position.afterAll_append]
    have hpos₁ : l₁.pos = Position.start.afterAll ((read ++ gap ++ cs).map .char) := by
      rw [hl₁, behind, hunmarked, hpos, ← Position.afterAll_append, ← List.map_append, List.append_assoc]
    obtain ⟨pieces, read', rfl, htiles, hread, hend, hunmarked'⟩ :=
      ih (skipMark_of_not_fresh (by rw [hl₁]; rfl)) hpos₁
    refine ⟨⟨gap, cs, l.placeBehind gap, t⟩ :: pieces, read', rfl, ?_, ?_, hend, hunmarked'⟩
    · refine .cons (fun c hc => isBlank_char_iff.mp (hgap c hc)) hyields.spells ?_ ?_
      · rw [hplace]
        exact Position.behind_afterAll _
      · rwa [show l₁.continues = t.continues by rw [hl₁]; rfl] at htiles
    · rw [hsplit, ← hread, ← List.append_assoc, ← List.map_append, ← List.append_assoc]

theorem Runs.answer_add {l l' : Lexer} {ts : List (Position × Token)} (h : Runs l ts l') (n : Nat) :
    l.answer (ts.length + n) = l'.answer n := by
  rw [answer, answer, after_add, h.after_length]

/-- Behind the last token there are blanks alone, and the end of the input comes behind them. -/
theorem behind_of_endOfInput {l l' : Lexer} {pos : Position} (hunmarked : l.skipMark = l) {read : List Char}
    (hpos : l.pos = Position.start.afterAll (read.map .char)) (h : l.next = (.token pos .endOfInput, l')) :
    ∃ gap : List Char, l.rest = gap.map .char ∧ (∀ c ∈ gap, Separates l.continues c) ∧ pos.Behind (read ++ gap) := by
  obtain ⟨-, gap, hgap, rfl, ⟨-, hrest, -⟩ | ⟨cs, -, hyields, -⟩⟩ := next_token_cases h
  · refine ⟨gap, hunmarked ▸ hrest, fun c hc => isBlank_char_iff.mp (hgap c hc), ?_⟩
    rw [placeBehind_of_unmarked hunmarked, hpos, ← Position.afterAll_append, ← List.map_append]
    exact Position.behind_afterAll _
  · cases hyields.spells

/-- Calls of the lexer return the tokens of the text one behind the other: these stand where their positions say and
leave nothing between them but blanks. In the end comes the end of the input, or an error; it comes again then. -/
theorem tokens_tile_text {text : Bytes} (h : (Utf8.glyphs text).head? ≠ some (.char '\ufeff')) :
    ∃ (pieces : List Piece) (read : List Char) (continues : Bool) (rest : Bytes),
      (ofBytes text).tokens.1 = pieces.map Piece.entry ∧
      (∀ n (hn : n < pieces.length), (ofBytes text).answer n = .token pieces[n].pos pieces[n].token) ∧
      text = Bytes.ofChars read ++ rest ∧ Tiles [] false pieces read continues ∧
      (pieces.map (·.pos.offset)).Pairwise (· < ·) ∧
      (∀ x ∈ pieces, '\n' ∈ x.source →
        x.source = ['\n'] ∧ x.token = .endOfLine ∨ ∃ value, x.token = .rawText value) ∧
      ((∃ (gap : List Char) (pos : Position), rest = Bytes.ofChars gap ∧ (∀ c ∈ gap, Separates continues c) ∧
          pos.Behind (read ++ gap) ∧ pos.offset = text.length ∧ (∀ x ∈ pieces, x.pos.offset < pos.offset) ∧
          ∀ n, pieces.length ≤ n → (ofBytes text).answer n = .token pos .endOfInput) ∨
        ∃ (place : Option Position) (e : LexError), (ofBytes text).answer pieces.length = .failure place e ∧
          ∀ n, pieces.length < n → (ofBytes text).answer n = .failure none e) := by
  obtain ⟨l', hruns, hlast⟩ := exists_runs (ofBytes text)
  have hstart : (ofBytes text).pos = Position.start.afterAll (([] : List Char).map .char) := rfl
  obtain ⟨pieces, read, htokens, htiles, hread, hpos, hunmarked⟩ := hruns.tiles (within_ofGlyphs h).skipMark hstart
  have hlength : (ofBytes text).tokens.1.length = pieces.length := by rw [htokens, List.length_map]
  have hbehind : ∀ n, (ofBytes text).answer (pieces.length + n) = l'.answer n := hlength ▸ hruns.answer_add
  have hglyphs : Utf8.glyphs text = read.map .char ++ l'.rest := hread
  have htext : text = Bytes.ofChars read ++ l'.rest.flatMap Glyph.bytes := by
    rw [← flatMap_bytes_chars, ← List.flatMap_append, ← hglyphs, Utf8.flatMap_bytes_glyphs]
  refine ⟨pieces, read, l'.continues, l'.rest.flatMap Glyph.bytes, htokens, fun n hn => ?_, htext, htiles,
    htiles.offsets_ascend, htiles.token_of_lineEnd, ?_⟩
  · rw [hruns.answer_eq (hlength ▸ hn)]
    simp [htokens, Piece.entry]
  rcases hending : (ofBytes text).tokens.2 with ⟨⟨pos, t⟩ | ⟨place, e⟩, l''⟩ <;> rw [hending] at hlast
  · left
    obtain rfl := (ofBytes text).tokens_ending.2 pos t (by rw [hending])
    obtain ⟨gap, hrest, hgap, hend⟩ := behind_of_endOfInput hunmarked hpos hlast
    rw [hrest, flatMap_bytes_chars] at htext ⊢
    have hoffset : pos.offset = text.length := by rw [hend.offset, htext, Bytes.ofChars_append]
    refine ⟨gap, pos, rfl, hgap, hend, hoffset, fun x hx => ?_, fun n hn => ?_⟩
    · have hlt := (htiles.offset_bounds x hx).2
      rw [hoffset, htext, List.length_append]
      omega
    · obtain ⟨k, rfl⟩ := Nat.exists_eq_add_of_le hn
      rw [hbehind, answer_of_endOfInput hunmarked hlast]
  · right
    refine ⟨place, e, ?_, fun n hn => ?_⟩
    · rw [← Nat.add_zero pieces.length, hbehind, answer, after, hlast]
    · obtain ⟨k, rfl⟩ := Nat.exists_eq_add_of_lt hn
      rw [Nat.add_assoc, hbehind, answer_of_failure hlast]

namespace TwoLines

def text : Bytes := Bytes.ofString "@A\x7b\x60é\n\x60,\n B\x7d\n"

def entries : List (Position × Token) :=
  [(⟨1, 1, 0⟩, .rune '@'), (⟨1, 2, 1⟩, .word "A"), (⟨1, 3, 2⟩, .rune '\x7b'),
    (⟨1, 4, 3⟩, .rawText (Bytes.ofString "é\n")), (⟨2, 2, 8⟩, .rune ','), (⟨3, 2, 11⟩, .word "B"),
    (⟨3, 3, 12⟩, .rune '\x7d'), (⟨3, 4, 13⟩, .endOfLine)]

end TwoLines

open TwoLines in
theorem tokens_tile_text_twoLines :
    (Utf8.glyphs text).head? ≠ some (.char '\ufeff') ∧
      ∃ (pieces : List Piece) (read : List Char) (continues : Bool) (rest : Bytes),
        pieces.map Piece.entry = entries ∧ text = Bytes.ofChars read ++ rest ∧ Tiles [] false pieces read continues ∧
          ∀ n, 8 ≤ n → (ofBytes text).answer n = .token ⟨4, 1, 14⟩ .endOfInput := by
  have hmark : (Utf8.glyphs text).head? ≠ some (.char '\ufeff') := by decide +kernel
  have hentries : (ofBytes text).tokens.1 = entries := by decide +kernel
  have hend : (ofBytes text).answer 8 = .token ⟨4, 1, 14⟩ .endOfInput := by decide +kernel
  obtain ⟨pieces, read, continues, rest, htokens, -, htext, htiles, -, -, hending⟩ := tokens_tile_text hmark
  have hpieces : pieces.map Piece.entry = entries := by rw [← htokens, hentries]
  have hlength : pieces.length = 8 := by rw [← List.length_map Piece.entry, hpieces]; rfl
  refine ⟨hmark, pieces, read, continues, rest, hpieces, htext, htiles, ?_⟩
  rw [hlength] at hending
  obtain ⟨gap, pos, -, -, -, -, -, hanswer⟩ | ⟨place, e, hfailure, -⟩ := hending
  · intro n hn
    rw [hanswer n hn, ← hanswer 8 (Nat.le_refl 8), hend]
  · rw [hend] at hfailure
    cases hfailure

end Lexer
end ServiceAnnotations.Mark
