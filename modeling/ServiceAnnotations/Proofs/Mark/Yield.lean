import ServiceAnnotations.Proofs.Mark.Spelling

/-! # What one call of the lexer reads

A call passes over blanks and reads the characters of a token. It does so wherever these stand, whatever the place
is and however the text goes on behind the glyph that follows them. -/
namespace ServiceAnnotations.Mark
open Text

namespace Lexer

theorem exists_of_isBlank {continues : Bool} {g : Glyph} (h : isBlank continues g = true) :
    ∃ c, g = .char c ∧ isSpacing c := by
  simp only [isBlank, Bool.or_eq_true, Bool.and_eq_true, decide_eq_true_eq] at h
  rcases h with ((rfl | rfl) | rfl) | ⟨-, rfl⟩ <;> exact ⟨_, rfl, by decide⟩

theorem isBlank_of_isBlank_false {continues : Bool} {g : Glyph} (h : isBlank continues g = false) :
    isBlank false g = false := by
  simp only [isBlank, Bool.or_eq_false_iff] at h ⊢
  exact ⟨h.1, rfl⟩

/-- The blanks at the front of a text, and a rest that does not go on with one. -/
theorem exists_blanks (continues : Bool) (gs : List Glyph) :
    ∃ (gap : List Char) (rest : List Glyph), gs = gap.map .char ++ rest ∧
      (∀ c ∈ gap, isBlank continues (.char c) = true) ∧ rest.head?.any (isBlank continues) = false := by
  induction gs with
  | nil => exact ⟨[], [], rfl, by simp, rfl⟩
  | cons g gs ih =>
    by_cases hg : isBlank continues g = true
    · obtain ⟨gap, rest, rfl, hgap, hrest⟩ := ih
      obtain ⟨c, rfl, -⟩ := exists_of_isBlank hg
      exact ⟨c :: gap, rest, rfl, by simpa [hg] using hgap, hrest⟩
    · exact ⟨[], g :: gs, rfl, by simp, by simpa using hg⟩

theorem takeWhile_blanks {continues : Bool} {gap : List Char} (hgap : ∀ c ∈ gap, isBlank continues (.char c) = true)
    {rest : List Glyph} (hrest : rest.head?.any (isBlank continues) = false) :
    (gap.map Glyph.char ++ rest).takeWhile (isBlank continues) = gap.map .char ∧
      (gap.map Glyph.char ++ rest).dropWhile (isBlank continues) = rest := by
  rw [List.takeWhile_append_of_pos (by simpa using hgap), List.dropWhile_append_of_pos (by simpa using hgap)]
  cases rest with
  | nil => simp
  | cons g rest =>
    have hg : ¬ isBlank continues g = true := by simpa using hrest
    simp [hg]

theorem look_blanks_append {continues : Bool} {gap : List Char}
    (hgap : ∀ c ∈ gap, isBlank continues (.char c) = true) {rest : List Glyph} (hrest : look rest none = none) :
    look (gap.map .char ++ rest) none = none := by
  cases gap with
  | nil => exact hrest
  | cons c gap =>
    obtain ⟨d, hd, hspacing⟩ := exists_of_isBlank (hgap c List.mem_cons_self)
    obtain rfl := Glyph.char.inj hd
    refine look_char_cons.mpr ?_
    rcases eq_of_isSpacing hspacing with rfl | rfl | rfl | rfl <;> decide

@[simp] theorem continues_skipMark (l : Lexer) : l.skipMark.continues = l.continues := by
  obtain ⟨-, tail, -, hskip⟩ | ⟨-, hskip⟩ := l.skipMark_cases <;> rw [hskip]

@[simp] theorem stopped_skipMark (l : Lexer) : l.skipMark.stopped = l.stopped := by
  obtain ⟨-, tail, -, hskip⟩ | ⟨-, hskip⟩ := l.skipMark_cases <;> rw [hskip]

/-- The place that a token behind blanks is reported to have. A mark at the start of the text counts only for
what stands behind a blank. -/
def placeBehind (l : Lexer) (gap : List Char) : Position :=
  if gap = [] then l.pos else l.skipMark.pos.afterAll (gap.map .char)

/-- What stands behind blanks is read there. -/
theorem next_behind_blanks {l : Lexer} (hstopped : l.stopped = none) {gap : List Char} {rest : List Glyph}
    (hgap : ∀ c ∈ gap, isBlank l.continues (.char c) = true) (hrest : rest.head?.any (isBlank l.continues) = false)
    (h : l.skipMark.rest = gap.map .char ++ rest) (hlook : gap ≠ [] → look rest none = none) :
    ∃ ahead : Lexer, ahead.rest = rest ∧ ahead.pos = l.skipMark.pos.afterAll (gap.map .char) ∧
      ahead.continues = l.continues ∧ ahead.stopped = none ∧
      l.next = ahead.readToken (l.placeBehind gap) (lastLineEnd? l.skipMark.pos (gap.map .char)) := by
  obtain ⟨htake, hdrop⟩ := takeWhile_blanks hgap hrest
  rw [← h] at htake hdrop
  unfold next
  simp only [hstopped, htake]
  cases gap with
  | nil => exact ⟨l.skipMark, h, rfl, l.continues_skipMark, by rw [stopped_skipMark, hstopped], rfl⟩
  | cons b gap =>
    refine ⟨l.skipMark.skipBlanks, ?_, ?_, ?_, ?_, ?_⟩
    · rw [skipBlanks, continues_skipMark]
      exact hdrop
    · rw [skipBlanks, continues_skipMark, htake]
    · exact l.continues_skipMark
    · rw [skipBlanks, stopped_skipMark, hstopped]
    · have hahead : l.skipMark.skipBlanks.rest = rest := by
        rw [skipBlanks, continues_skipMark]
        exact hdrop
      have hpos : l.skipMark.skipBlanks.pos = l.placeBehind (b :: gap) := by
        rw [skipBlanks, continues_skipMark, htake, placeBehind, if_neg (List.cons_ne_nil _ _)]
      rw [hahead, hlook (List.cons_ne_nil _ _), hpos]
      rfl

/-- A glyph that no text may hold ends the text when it stands behind a blank, and is met with the last of these. -/
theorem next_spoiled {l : Lexer} (hstopped : l.stopped = none) {gap : List Char} {rest : List Glyph} {e : LexError}
    (hgap : ∀ c ∈ gap, isBlank l.continues (.char c) = true) (hrest : rest.head?.any (isBlank l.continues) = false)
    (h : l.skipMark.rest = gap.map .char ++ rest) (hne : gap ≠ []) (hlook : look rest none = some e) :
    ∃ l', l.next = (.failure (lastLineEnd? l.skipMark.pos (gap.map Glyph.char).dropLast) e, l') := by
  obtain ⟨htake, hdrop⟩ := takeWhile_blanks hgap hrest
  rw [← h] at htake hdrop
  have hahead : l.skipMark.skipBlanks.rest = rest := by
    rw [skipBlanks, continues_skipMark]
    exact hdrop
  unfold next
  simp only [hstopped, htake, hahead, hlook]
  rw [if_neg (by simpa using hne)]
  exact ⟨_, rfl⟩

def behind (l : Lexer) (cs : List Char) (t : Token) (rest : List Glyph) : Lexer :=
  ⟨rest, l.skipMark.pos.afterAll (cs.map .char), false, t.continues, none⟩

/-- The characters `cs` of a token `t` are read in front of `rest`, whatever blanks stand before them, and are
read again wherever they stand. -/
structure Yields (continues : Bool) (cs : List Char) (t : Token) (rest : List Glyph) : Prop where
  spells : Spells cs t
  solid : (cs.map Glyph.char).head?.any (isBlank continues) = false
  starts : ∀ rest', look (cs.map .char ++ rest') none = none
  clean : look rest none = none
  next_eq : ∀ (l : Lexer) (gap : List Char) (rest' : List Glyph), l.continues = continues → l.stopped = none →
    (∀ c ∈ gap, isBlank continues (.char c) = true) → SameAhead rest rest' →
    l.skipMark.rest = (gap ++ cs).map .char ++ rest' →
    l.next = (.token (l.placeBehind gap) t, l.behind (gap ++ cs) t rest')

theorem readToken_run (l : Lexer) (pos : Position) (lineEnd : Option Position) {shape : Shape} {c : Char}
    {cs : List Char} {rest : List Glyph} {t : Token} (hrest : l.rest = (c :: cs).map .char ++ rest)
    (hscan : scanToken (.char c) (cs.map .char ++ rest) = (shape, ⟨rest, none⟩))
    (ht : Token.ofSpelling shape (.char c) (c :: cs) = .ok t) :
    l.readToken pos lineEnd =
      (.token pos t, ⟨rest, l.pos.afterAll ((c :: cs).map .char), false, t.continues, none⟩) := by
  have hspelling := spelling_append (c :: cs) rest
  have hconsumed : consumed ((c :: cs).map .char ++ rest) rest = (c :: cs).map .char := by
    rw [consumed, List.length_append, Nat.add_sub_cancel, List.take_left]
  unfold readToken
  rw [hrest]
  rw [List.map_cons, List.cons_append] at hspelling hconsumed ⊢
  simp only [hscan, hspelling, ht, hconsumed]

theorem yields_of_scansAgain {continues : Bool} {shape : Shape} {c : Char} {cs : List Char} {rest : List Glyph}
    {t : Token} (hc : isBlank continues (.char c) = false) (hspells : Spells (c :: cs) t)
    (hscan : ScansAgain shape c cs rest) (ht : Token.ofSpelling shape (.char c) (c :: cs) = .ok t) :
    Yields continues (c :: cs) t rest := by
  have hstarts : ∀ rest', look ((c :: cs).map .char ++ rest') none = none :=
    fun rest' => look_char_cons.mpr hscan.ne_nul
  refine ⟨hspells, by simpa using hc, hstarts, hscan.clean, fun l gap rest' hcontinues hstopped hgap hahead hrest => ?_⟩
  subst hcontinues
  rw [List.map_append, List.append_assoc] at hrest
  have hend : ((c :: cs).map Glyph.char ++ rest').head?.any (isBlank l.continues) = false := by simpa using hc
  obtain ⟨ahead, hrest', hpos, -, -, hnext⟩ :=
    next_behind_blanks hstopped hgap hend hrest (fun _ => hstarts rest')
  rw [hnext, readToken_run ahead _ _ hrest' (hscan.scanToken_eq rest' hahead) ht, hpos, behind,
    List.map_append, Position.afterAll_append]

theorem readToken_token_iff {l l' : Lexer} {pos pos' : Position} {lineEnd : Option Position} {t : Token}
    {g : Glyph} {tail : List Glyph} (hrest : l.rest = g :: tail) (h : l.readToken pos lineEnd = (.token pos' t, l')) :
    ∃ (shape : Shape) (rest : List Glyph), scanToken g tail = (shape, ⟨rest, none⟩) ∧
      Token.ofSpelling shape g (spelling (g :: tail) rest) = .ok t ∧ l'.rest = rest := by
  unfold readToken at h
  rw [hrest] at h
  rcases hscan : scanToken g tail with ⟨shape, rest, error⟩
  simp only [hscan] at h
  cases error with
  | some e => cases h
  | none =>
    simp only at h
    split at h
    · cases h
    · rename_i t' ht
      cases h
      exact ⟨shape, rest, rfl, ht, rfl⟩

/-- A token comes from a text that has blanks, and behind them its end or the characters of the token. -/
theorem next_token_cases {l l' : Lexer} {pos : Position} {t : Token} (h : l.next = (.token pos t, l')) :
    l.stopped = none ∧ ∃ gap : List Char, (∀ c ∈ gap, isBlank l.continues (.char c) = true) ∧
      pos = l.placeBehind gap ∧
      ((t = .endOfInput ∧ l.skipMark.rest = gap.map .char ∧
          l' = ⟨[], l.skipMark.pos.afterAll (gap.map .char), false, l.continues, none⟩) ∨
        ∃ cs : List Char, l.skipMark.rest = (gap ++ cs).map .char ++ l'.rest ∧ Yields l.continues cs t l'.rest ∧
          l' = l.behind (gap ++ cs) t l'.rest) := by
  have hstopped : l.stopped = none := by
    cases hstop : l.stopped with
    | none => rfl
    | some e => simp [next, hstop] at h
  obtain ⟨gap, rest, hrest, hgap, hend⟩ := exists_blanks l.continues l.skipMark.rest
  have hlook : gap ≠ [] → look rest none = none := by
    intro hne
    cases hlook : look rest none with
    | none => rfl
    | some e =>
      obtain ⟨l'', hnext⟩ := next_spoiled hstopped hgap hend hrest hne hlook
      cases hnext.symm.trans h
  obtain ⟨ahead, hahead, hpos, hcontinues, hstop, hnext⟩ := next_behind_blanks hstopped hgap hend hrest hlook
  rw [hnext] at h
  refine ⟨hstopped, gap, hgap, ?_⟩
  cases rest with
  | nil =>
    simp only [readToken, hahead, Prod.mk.injEq, Lexeme.token.injEq] at h
    obtain ⟨⟨rfl, rfl⟩, rfl⟩ := h
    exact ⟨rfl, .inl ⟨rfl, by simpa using hrest, by rw [← hcontinues, ← hstop, ← hpos, ← hahead]⟩⟩
  | cons g tail =>
    have hg : isBlank l.continues g = false := by simpa using hend
    obtain ⟨shape, rest, hscan, ht, hrest'⟩ := readToken_token_iff hahead h
    obtain ⟨c, cs, rfl, rfl, hspells, hagain⟩ := scanToken_run (isBlank_of_isBlank_false hg) hscan ht
    have ht' : Token.ofSpelling shape (.char c) (c :: cs) = .ok t := by
      rwa [show spelling (.char c :: (cs.map .char ++ rest)) rest = c :: cs from spelling_append (c :: cs) rest] at ht
    have hyields : Yields l.continues (c :: cs) t rest := yields_of_scansAgain hg hspells hagain ht'
    have hsplit : l.skipMark.rest = (gap ++ c :: cs).map .char ++ rest := by
      rw [hrest, List.map_append, List.append_assoc]
      rfl
    have hread := hyields.next_eq l gap rest rfl hstopped hgap (.refl rest) hsplit
    rw [← hnext, hread, Prod.mk.injEq, Lexeme.token.injEq] at h
    obtain ⟨⟨rfl, -⟩, rfl⟩ := h
    exact ⟨rfl, .inr ⟨c :: cs, hsplit, hyields, rfl⟩⟩

/-- Behind the last token there are blanks up to the end. -/
theorem next_endOfInput {l : Lexer} (hstopped : l.stopped = none) {gap : List Char}
    (hgap : ∀ c ∈ gap, isBlank l.continues (.char c) = true) (h : l.skipMark.rest = gap.map .char) :
    l.next = (.token (l.placeBehind gap) .endOfInput,
      ⟨[], l.skipMark.pos.afterAll (gap.map .char), false, l.continues, none⟩) := by
  have hend : ([] : List Glyph).head?.any (isBlank l.continues) = false := rfl
  obtain ⟨ahead, hahead, hpos, hcontinues, hstop, hnext⟩ :=
    next_behind_blanks hstopped hgap hend (by rw [h, List.append_nil]) (fun _ => rfl)
  simp only [hnext, readToken, hahead, hpos, hcontinues, hstop]

/-- A character that opens no longer token is one by itself. -/
theorem yields_single {continues : Bool} {c : Char} {t : Token} {rest : List Glyph} (hopens : opensToken c = false)
    (hdot : c ≠ '.') (hnul : c.toNat ≠ 0) (hblank : isBlank continues (.char c) = false)
    (ht : Token.ofSpelling .single (.char c) [c] = .ok t) (hrest : look rest none = none) :
    Yields continues [c] t rest := by
  have hscan : scanToken (.char c) rest = (.single, ⟨rest, none⟩) := by
    rw [scanToken_single hopens (fun h => absurd h hdot), Scan.start_run (look_char_cons.mpr hnul), Scan.step_run hrest]
  exact yields_of_scansAgain hblank (spells_of_single hopens (isBlank_of_isBlank_false hblank) ht)
    (scansAgain_single hopens (fun h => absurd h hdot) hscan).2 ht

/-- A line end is a token where the line does not go on. -/
theorem yields_endOfLine {rest : List Glyph} (hrest : look rest none = none) :
    Yields false ['\n'] .endOfLine rest :=
  yields_single (by decide) (by decide) (by decide) (by decide) rfl hrest

end Lexer
end ServiceAnnotations.Mark
