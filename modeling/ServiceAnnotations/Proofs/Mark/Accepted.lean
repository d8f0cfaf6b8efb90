import ServiceAnnotations.Proofs.Mark.Completeness
import ServiceAnnotations.Proofs.Mark.Relocation
import ServiceAnnotations.Proofs.Mark.Runs

/-! # Texts that are read

A text is read when calls of the lexer return the tokens of a tree and then the end of the input. Such a text is
made of characters alone, and its last token does not continue its line. -/
namespace ServiceAnnotations.Mark
open Text

theorem isFinal_endOfInput (pos : Position) : (Lexeme.token pos .endOfInput).IsFinal := by
  rintro p t ⟨⟩
  rfl

namespace FileTree

variable {φ : Position → Position} {f : FileTree} {ts : Tokens}

/-- The tokens of a tree have a tree wherever they stand. -/
theorem exists_mapPos (hf : ∀ x ∈ f.tokens, x.2 ≠ .endOfInput) (φ : Position → Position) :
    ∃ g : FileTree, g.tokens = f.tokens.map (Prod.map φ id) ∧ g.marks = f.marks.map (Mark.mapPos φ) := by
  have hread := parseMarks_mapPos φ (3 * f.tokens.length + 1) ⟨f.tokens, .token .start .endOfInput⟩
  rw [parseMarks_complete f (Nat.lt_succ_self _), relocated_ok] at hread
  have hmoved : ∀ x ∈ f.tokens.map (Prod.map φ id), x.2 ≠ .endOfInput := by
    intro x hx
    obtain ⟨y, hy, rfl⟩ := List.mem_map.mp hx
    exact hf y hy
  obtain ⟨g, htokens, hmarks, -⟩ :=
    parseMarks_sound (isFinal_endOfInput _) hmoved (by rw [List.length_map]; omega) hread
  exact ⟨g, htokens, hmarks⟩

/-- Tokens have a tree if they have one at other places. -/
theorem exists_of_mapPos (hts : ∀ x ∈ ts, x.2 ≠ .endOfInput) (h : f.tokens = ts.map (Prod.map φ id)) :
    ∃ g : FileTree, g.tokens = ts ∧ g.marks.map (Mark.mapPos φ) = f.marks := by
  have hread := parseMarks_mapPos φ (3 * ts.length + 1) ⟨ts, .token .start .endOfInput⟩
  have hmapped : parseMarks (3 * ts.length + 1) ⟨f.tokens, .token (φ .start) .endOfInput⟩ = .ok f.marks :=
    parseMarks_complete f (by simp [h])
  rw [Input.mapPos, Lexeme.mapPos, ← h, hmapped] at hread
  cases hparse : parseMarks (3 * ts.length + 1) ⟨ts, .token .start .endOfInput⟩ with
  | error e =>
    rw [hparse] at hread
    cases hread
  | ok marks =>
    obtain ⟨g, htokens, hmarks, -⟩ := parseMarks_sound (isFinal_endOfInput _) hts (by omega) hparse
    rw [hparse, relocated_ok] at hread
    exact ⟨g, htokens, hmarks ▸ (Except.ok.inj hread).symm⟩

/-- Tokens of the same kinds have trees that stand for the same, apart from places. -/
theorem exists_of_kinds (hts : ∀ x ∈ ts, x.2 ≠ .endOfInput) (h : ts.map Prod.snd = f.tokens.map Prod.snd) :
    ∃ g : FileTree, g.tokens = ts ∧ g.marks.map Mark.unplaced = f.marks.map Mark.unplaced := by
  have hkinds : ∀ us : Tokens,
      us.map (Prod.map (fun _ => Position.start) id) = (us.map Prod.snd).map (Prod.mk Position.start) := by
    intro us
    rw [List.map_map]
    rfl
  have hf : ∀ x ∈ f.tokens, x.2 ≠ .endOfInput := by
    have hall : ∀ t ∈ ts.map Prod.snd, t ≠ .endOfInput := List.forall_mem_map.mpr hts
    rw [h] at hall
    exact fun x hx => hall x.2 (List.mem_map_of_mem hx)
  obtain ⟨g, htokens, hmarks⟩ := f.exists_mapPos hf fun _ => .start
  rw [hkinds, ← h, ← hkinds] at htokens
  obtain ⟨g', htokens', hmarks'⟩ := g.exists_of_mapPos hts htokens
  exact ⟨g', htokens', hmarks'.trans hmarks⟩

end FileTree

def EndsLine (ts : Tokens) : Prop := ∀ x, ts.getLast? = some x → x.2.continues = false

theorem EndsLine.append {ts us : Tokens} (hts : EndsLine ts) (hus : EndsLine us) : EndsLine (ts ++ us) := by
  intro x hx
  rw [List.getLast?_append] at hx
  cases h : us.getLast? with
  | none =>
    rw [h] at hx
    exact hts x hx
  | some y =>
    rw [h] at hx
    exact hus x (h.trans hx)

theorem EndsLine.append_spot {nested : Bool} (ts : Tokens) (s : Spot nested) {t : Token} (ht : t.continues = false) :
    EndsLine (ts ++ s.tokens t) := by
  intro x hx
  rw [Spot.tokens, ← List.append_assoc, List.getLast?_concat] at hx
  obtain rfl := Option.some.inj hx
  exact ht

theorem RefTree.endsLine {nested : Bool} (r : RefTree nested) : EndsLine r.tokens := by
  cases r with
  | plain spot name => exact EndsLine.append_spot [] spot rfl
  | qualified spot package dot member name => exact EndsLine.append_spot _ member rfl

theorem MarkTree.endsLine (m : MarkTree) : EndsLine m.tokens := by
  obtain ⟨sign, type, args⟩ := m
  cases args with
  | absent =>
    have hsign : EndsLine [(sign, .rune '@')] := by
      rintro x ⟨⟩
      rfl
    simp only [tokens, ArgsTree.tokens, List.append_nil]
    exact hsign.append type.endsLine
  | given b opened items closed =>
    simp only [tokens, ArgsTree.tokens, ← List.append_assoc]
    exact EndsLine.append_spot _ closed (by cases b <;> rfl)

theorem FileTree.endsLine (f : FileTree) : EndsLine f.tokens := by
  have hlineEnd : ∀ pos, EndsLine [(pos, .endOfLine)] := by
    rintro pos x ⟨⟩
    rfl
  induction f with
  | done => rintro x ⟨⟩
  | lineEnd pos rest ih => exact (hlineEnd pos).append ih
  | mark m pos rest ih => exact m.endsLine.append ((hlineEnd pos).append ih)
  | lastMark m => exact m.endsLine

namespace Lexer

theorem Runs.ne_endOfInput {l l' : Lexer} {ts : Tokens} (h : Runs l ts l') : ∀ x ∈ ts, x.2 ≠ .endOfInput := by
  induction h with
  | nil => simp
  | cons _ ht _ ih => exact List.forall_mem_cons.mpr ⟨ht, ih⟩

theorem continues_next {l l' : Lexer} {pos : Position} {t : Token} (h : l.next = (.token pos t, l'))
    (ht : t ≠ .endOfInput) : l'.continues = t.continues := by
  obtain ⟨-, gap, -, -, ⟨rfl, -, -⟩ | ⟨cs, -, -, hl'⟩⟩ := next_token_cases h
  · exact absurd rfl ht
  · rw [hl']
    rfl

/-- Whether the line goes on is known from the last token. -/
theorem Runs.continues_eq {l l' : Lexer} {ts : Tokens} (h : Runs l ts l') {x : Position × Token}
    (hx : ts.getLast? = some x) : l'.continues = x.2.continues := by
  obtain ⟨front, rfl⟩ := List.getLast?_eq_some_iff.mp hx
  obtain ⟨l₁, -, hlast⟩ := h.split
  cases hlast with
  | cons hnext ht hrest =>
    cases hrest
    exact continues_next hnext ht

theorem Runs.continues_of_endsLine {l l' : Lexer} {ts : Tokens} (h : Runs l ts l') (hts : EndsLine ts)
    (hl : l.continues = false) : l'.continues = false := by
  cases hx : ts.getLast? with
  | some x => rw [h.continues_eq hx, hts x hx]
  | none =>
    obtain rfl := List.getLast?_eq_none_iff.mp hx
    cases h
    exact hl

/-- Where the input ends, there are only characters left. -/
theorem exists_chars_of_endOfInput {l l' : Lexer} {pos : Position} (h : l.next = (.token pos .endOfInput, l')) :
    ∃ cs : List Char, l.rest = cs.map .char := by
  obtain ⟨-, gap, -, -, ⟨-, hrest, -⟩ | ⟨cs, -, hyields, -⟩⟩ := next_token_cases h
  · obtain ⟨-, tail, hl, hskip⟩ | ⟨-, hskip⟩ := l.skipMark_cases <;> rw [hskip] at hrest
    · have hgap : tail = gap.map .char := hrest
      exact ⟨'\ufeff' :: gap, by rw [hl, hgap]; rfl⟩
    · exact ⟨gap, hrest⟩
  · cases hyields.spells

end Lexer

open Lexer in
theorem parse_eq_ok_iff_runs {b : Bytes} {marks : List Mark} :
    parse b = .ok marks ↔ ∃ (f : FileTree) (l l' : Lexer) (pos : Position), Runs (ofBytes b) f.tokens l ∧
      l.next = (.token pos .endOfInput, l') ∧ f.marks = marks := by
  rw [parse_eq_ok_iff]
  constructor
  · rintro ⟨⟨pos, hpos⟩, f, hf, hmarks⟩
    obtain ⟨l, hruns, hlast⟩ := exists_runs (ofBytes b)
    exact ⟨f, l, _, pos, hf ▸ hruns, by rw [hlast, ← hpos], hmarks⟩
  · rintro ⟨f, l, l', pos, hruns, hlast, hmarks⟩
    have htokens := hruns.tokens_eq
    rw [tokens_endOfInput hlast, List.append_nil] at htokens
    exact ⟨⟨pos, by rw [htokens]⟩, f, by rw [htokens], hmarks⟩

/-- A text that is read has no byte that belongs to no character. -/
theorem exists_chars_of_parse {b : Bytes} {marks : List Mark} (h : parse b = .ok marks) :
    ∃ cs : List Char, b = Bytes.ofChars cs := by
  obtain ⟨f, l, l', pos, hruns, hlast, -⟩ := parse_eq_ok_iff_runs.mp h
  obtain ⟨cs, hcs⟩ := Lexer.exists_chars_of_endOfInput hlast
  obtain ⟨v, -, hv, -⟩ := hruns.swap
  refine ⟨v ++ cs, Utf8.mapM_char?_glyphs_eq_some_iff.mp (Utf8.mapM_char?_eq_some_iff.mpr ?_)⟩
  rw [List.map_append, ← hcs, ← hv]
  rfl

end ServiceAnnotations.Mark
