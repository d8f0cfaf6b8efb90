import ServiceAnnotations.Proofs.Elements.Lines
import ServiceAnnotations.Proofs.Mark.Located

/-! # How an annotation text opens

A comment line is an annotation line if `@` comes first in it, behind any white space. The lexer passes over blanks,
tabs and carriage returns alone. So the first token of an annotation text is that `@`, or the first other white
space. -/
namespace ServiceAnnotations.Mark
open Text

namespace Lexer

variable {l l' : Lexer} {ts : Tokens}

theorem offset_le_afterAll (p : Position) (gs : List Glyph) : p.offset ≤ (p.afterAll gs).offset := by
  rw [Position.offset_afterAll]
  exact Nat.le_add_right _ _

theorem offset_le_skipMark (l : Lexer) : l.pos.offset ≤ l.skipMark.pos.offset := by
  obtain ⟨-, tail, -, hskip⟩ | ⟨-, hskip⟩ := l.skipMark_cases
  · rw [hskip]
    exact offset_le_afterAll l.pos [.char '\ufeff']
  · exact Nat.le_of_eq (by rw [hskip])

theorem offset_le_placeBehind (l : Lexer) (gap : List Char) : l.pos.offset ≤ (l.placeBehind gap).offset := by
  unfold placeBehind
  split
  · exact Nat.le_refl _
  · exact l.offset_le_skipMark.trans (offset_le_afterAll _ _)

/-- No token stands before the place where the lexer is. -/
theorem Runs.offset_le (h : Runs l ts l') : l.pos.offset ≤ l'.pos.offset ∧ ∀ x ∈ ts, l.pos.offset ≤ x.1.offset := by
  induction h with
  | nil => exact ⟨Nat.le_refl _, by simp⟩
  | @cons l l₁ l' pos t ts hnext ht _ ih =>
    obtain ⟨v, -, -, hpos, -⟩ := next_swap hnext ht
    have hle : l.pos.offset ≤ l₁.pos.offset := hpos ▸ offset_le_afterAll l.pos _
    obtain ⟨-, gap, -, rfl, -⟩ := next_token_cases hnext
    exact ⟨hle.trans ih.1, List.forall_mem_cons.mpr ⟨l.offset_le_placeBehind gap, fun x hx => hle.trans (ih.2 x hx)⟩⟩

/-- Nor does what ends the text. -/
theorem offset_le_of_ending (hstopped : l.stopped = none) {p : Position} :
    (∀ {t}, l.next = (.token p t, l') → l.pos.offset ≤ p.offset) ∧
      ∀ {e}, l.next = (.failure (some p) e, l') → l.pos.offset ≤ p.offset := by
  constructor
  · intro t hnext
    obtain ⟨-, gap, -, rfl, -⟩ := next_token_cases hnext
    exact l.offset_le_placeBehind gap
  · intro e hnext
    obtain ⟨gap, rest, -, -, -, -, ⟨literal, -, hp⟩ | ⟨-, passed, -, hp⟩⟩ := next_failure_cases hstopped hnext
    · cases hp
      exact l.offset_le_placeBehind gap
    · obtain ⟨u, v, -, rfl⟩ := lastLineEnd?_eq_some hp.symm
      exact l.offset_le_skipMark.trans (offset_le_afterAll _ _)

/-- A token takes place. -/
theorem offset_lt_of_next {pos : Position} {t : Token} (h : l.next = (.token pos t, l')) (ht : t ≠ .endOfInput) :
    pos.offset < l'.pos.offset := by
  obtain ⟨-, gap, -, rfl, ⟨rfl, -, -⟩ | ⟨cs, -, hyields, hl'⟩⟩ := next_token_cases h
  · exact absurd rfl ht
  have hcs := hyields.spells.length_pos
  have hplace : (l.placeBehind gap).offset ≤ (l.skipMark.pos.afterAll (gap.map .char)).offset := by
    unfold placeBehind
    split
    · exact l.offset_le_skipMark.trans (offset_le_afterAll _ _)
    · exact Nat.le_refl _
  rw [hl', behind, List.map_append, Position.afterAll_append, Position.offset_afterAll _ (cs.map _),
    flatMap_bytes_chars]
  omega

end Lexer

/-- A text that starts with `@` is not refused there. -/
theorem pos_ne_of_first_mark {text : Bytes} {p : Position} {l : Lexer}
    (hfirst : (Lexer.ofBytes text).next = (.token p (.rune '@'), l)) {e : ParseError} (h : parse text = .error e) :
    e.pos ≠ some p := by
  have htokens := Lexer.tokens_token hfirst (by simp)
  have hlt := Lexer.offset_lt_of_next hfirst (by simp)
  obtain ⟨hproper, hfinal⟩ := (Lexer.ofBytes text).tokens_ending
  obtain ⟨l', hruns, hlast⟩ := Lexer.exists_runs l
  obtain ⟨hle, hbehind⟩ := hruns.offset_le
  have hstopped : l'.stopped = none := by
    have hall : Lexer.Runs (.ofBytes text) ((p, .rune '@') :: l.tokens.1) l' := .cons hfirst (by simp) hruns
    exact hall.stopped_eq rfl
  obtain ⟨hend, hfail⟩ : (∀ {t}, l'.next = (.token p t, l'.next.2) → l'.pos.offset ≤ p.offset) ∧
      ∀ {e}, l'.next = (.failure (some p) e, l'.next.2) → l'.pos.offset ≤ p.offset :=
    Lexer.offset_le_of_ending hstopped
  have hstop : StopsAt false (Whole FileTree.tokens) (Whole FileTree.tokens) (Lexer.ofBytes text).tokens.1
      (Lexer.ofBytes text).tokens.2.1 e :=
    parseMarks_stopsAt hfinal hproper (Nat.lt_add_of_pos_right (by decide)) h
  rw [htokens] at hstop
  intro hp
  cases hstop with
  | @token before after t wanted hts _ _ hstuck =>
    obtain ⟨pos, t⟩ := t
    cases hp
    cases before with
    | nil =>
      cases (List.cons.inj hts).1
      exact hstuck [(pos, .word "")] ⟨.lastMark ⟨pos, .plain ⟨[], pos, fun _ => rfl⟩ "", .absent⟩, rfl⟩
    | cons first before =>
      obtain ⟨-, hts⟩ := List.cons.inj hts
      have := hbehind (pos, t) (by simp [hts])
      omega
  | endOfInput wanted hending =>
    cases hp
    have := hend (t := .endOfInput) (Prod.ext (by rw [hlast, hending]) rfl)
    omega
  | failure hending =>
    cases hp
    have := hfail (Prod.ext (by rw [hlast, hending]) rfl)
    omega

/-- A text that starts with another character that is a token by itself is refused there. -/
theorem parse_eq_error_of_first {text : Bytes} {p : Position} {c : Char} {l : Lexer} (hc : c ≠ '@')
    (hfirst : (Lexer.ofBytes text).next = (.token p (.rune c), l)) :
    parse text = .error ⟨some p, .unexpected (.rune c) .mark⟩ := by
  have hread : ∀ fuel ts ending, parseMarks (fuel + 1) ⟨(p, .rune c) :: ts, ending⟩ =
      .error ⟨some p, .unexpected (.rune c) .mark⟩ := by
    intro fuel ts ending
    rw [parseMarks, show (Input.mk ((p, .rune c) :: ts) ending).peek = .ok (p, .rune c) from rfl, ok_bind]
    simp only
    split
    · cases ‹Token.rune c = _›
    · cases ‹Token.rune c = _›
    · exact absurd (Token.rune.inj ‹_›) hc
    · rfl
  unfold parse
  rw [Lexer.tokens_token hfirst (by simp)]
  exact hread _ _ _

namespace Lexer

theorem afterAll_line {cs : List Char} (hcs : '\n' ∉ cs) :
    Position.start.afterAll (cs.map .char) = ⟨1, 1 + cs.length, (Bytes.ofChars cs).length⟩ := by
  obtain ⟨hoffset, hline, hcolumn⟩ := Position.behind_afterAll cs
  rw [List.count_eq_zero.mpr hcs] at hline
  rw [List.rtakeWhile_eq_self_iff.mpr (by simpa using fun c hc => ne_of_mem_of_not_mem hc hcs)] at hcolumn
  generalize Position.start.afterAll (cs.map .char) = p at *
  obtain ⟨line, column, offset⟩ := p
  simp_all

section
variable {blanks : List Char} {c : Char} (hblanks : ∀ b ∈ blanks, Separates false b)
include hblanks

theorem lineEnd_not_mem_blanks : '\n' ∉ blanks := by
  intro hmem
  obtain h | h | h | ⟨h, -⟩ := hblanks '\n' hmem <;> cases h

/-- A text that starts with blanks and another character does not start with a mark. -/
theorem unmarked_of_blanks (hc : c ≠ '\ufeff') {gs tail : List Glyph} (hgs : gs = blanks.map .char ++ .char c :: tail) :
    gs.head? ≠ some (.char '\ufeff') := by
  subst hgs
  cases blanks with
  | nil => simpa using hc
  | cons b blanks =>
    obtain rfl | rfl | rfl | ⟨h, -⟩ := hblanks b List.mem_cons_self
    · simp
    · simp
    · simp
    · cases h

/-- The first token of a text is behind its blanks. -/
theorem next_first (hc : c ≠ '\ufeff') {t : Token} {rest : Bytes} (hyields : Yields false [c] t (Utf8.glyphs rest)) :
    ∃ l, (ofBytes (Bytes.ofChars (blanks ++ [c]) ++ rest)).next =
      (.token ⟨1, 1 + blanks.length, (Bytes.ofChars blanks).length⟩ t, l) := by
  have hglyphs := Utf8.glyphs_ofChars_append (blanks ++ [c]) rest
  have hsplit := hglyphs
  rw [List.map_append, List.append_assoc] at hsplit
  have hskip := (within_ofGlyphs (unmarked_of_blanks hblanks hc hsplit)).skipMark
  have hplace : (ofBytes (Bytes.ofChars (blanks ++ [c]) ++ rest)).placeBehind blanks =
      ⟨1, 1 + blanks.length, (Bytes.ofChars blanks).length⟩ :=
    (placeBehind_of_unmarked hskip blanks).trans (afterAll_line (lineEnd_not_mem_blanks hblanks))
  have hnext := hyields.next_eq (ofBytes (Bytes.ofChars (blanks ++ [c]) ++ rest)) blanks (Utf8.glyphs rest) rfl rfl
    (fun b hb => isBlank_char_iff.mpr (hblanks b hb)) (.refl _) ((congrArg Lexer.rest hskip).trans hglyphs)
  rw [hplace] at hnext
  exact ⟨_, hnext⟩

/-- A sign in front of a glyph that no text may hold is no token. -/
theorem next_first_spoiled (hc : c ≠ '\ufeff') (hopens : opensToken c = false) (hdot : c ≠ '.') (hnul : c.toNat ≠ 0)
    (hblank : isBlank false (.char c) = false) {rest : Bytes} {e : LexError}
    (hrest : look (Utf8.glyphs rest) none = some e) :
    ∃ l, (ofBytes (Bytes.ofChars (blanks ++ [c]) ++ rest)).next = (.failure none e, l) := by
  have hsplit := Utf8.glyphs_ofChars_append (blanks ++ [c]) rest
  rw [List.map_append, List.append_assoc] at hsplit
  have hskip := (within_ofGlyphs (unmarked_of_blanks hblanks hc hsplit)).skipMark
  have hgap : ∀ b ∈ blanks, isBlank (ofBytes (Bytes.ofChars (blanks ++ [c]) ++ rest)).continues (.char b) = true :=
    fun b hb => isBlank_char_iff.mpr (hblanks b hb)
  have hend : (Glyph.char c :: Utf8.glyphs rest).head?.any (isBlank false) = false := hblank
  obtain ⟨ahead, hahead, -, -, -, hnext⟩ := next_behind_blanks rfl hgap hend
    ((congrArg Lexer.rest hskip).trans hsplit) (fun _ => look_char_cons.mpr hnul)
  have hscan : (scanToken (.char c) (Utf8.glyphs rest)).2.error = some e := by
    rw [scanToken_single hopens fun h => absurd h hdot, Scan.start_run (look_char_cons.mpr hnul)]
    exact hrest
  have hline : ∀ pos, lastLineEnd? pos (blanks.map .char) = none := by
    intro pos
    cases hlast : lastLineEnd? pos (blanks.map .char) with
    | none => rfl
    | some place =>
      obtain ⟨u, v, rfl, -⟩ := lastLineEnd?_eq_some hlast
      exact absurd (by simp) (lineEnd_not_mem_blanks hblanks)
  rw [hnext, hline]
  unfold readToken
  rw [hahead]
  simp only [hscan]
  exact ⟨_, rfl⟩

end

end Lexer
end ServiceAnnotations.Mark

namespace ServiceAnnotations.Elements
open Source Text

/-- The code points of white space. -/
def blankCodes : List Nat :=
  [9, 10, 11, 12, 13, 0x20, 0x85, 0xa0, 0x1680, 0x2000, 0x2001, 0x2002, 0x2003, 0x2004, 0x2005, 0x2006, 0x2007, 0x2008,
    0x2009, 0x200a, 0x2028, 0x2029, 0x202f, 0x205f, 0x3000]

theorem toNat_mem_blankCodes {c : Char} (h : isBlank c = true) : c.toNat ∈ blankCodes := by
  unfold isBlank at h
  simp only [blankCodes, List.mem_cons, List.not_mem_nil, or_false]
  split at h
  · simp only [Bool.or_eq_true, Bool.and_eq_true, decide_eq_true_eq] at h
    omega
  · obtain ⟨r, hr, hle, hge⟩ := inRanges_iff.mp h
    simp only [blankRanges, List.mem_cons, List.not_mem_nil, or_false] at hr
    rcases hr with rfl | rfl | rfl | rfl | rfl | rfl | rfl | rfl <;> simp only at hle hge <;> omega

/-- White space other than blanks, tabs and carriage returns is a token to the lexer, and so are line ends. -/
theorem opensToken_of_isBlank {c : Char} (h : isBlank c = true) : Mark.opensToken c = false := by
  have hall : ∀ n ∈ blankCodes, Mark.opensToken (Char.ofNat n) = false := by decide +kernel
  have hc := hall c.toNat (toNat_mem_blankCodes h)
  rwa [Char.ofNat_toNat] at hc

/-- An annotation line: white space, and `@` behind it. -/
structure Opening (line : Bytes) (blanks : List Char) (rest : Bytes) : Prop where
  line_eq : line = Bytes.ofChars (blanks ++ ['@']) ++ rest
  blank : ∀ c ∈ blanks, isBlank c = true

theorem annotStart?_eq_some_iff {line : Bytes} {i : Nat} :
    annotStart? line = some i ↔ ∃ blanks rest, Opening line blanks rest ∧ i = (Bytes.ofChars blanks).length := by
  have hdrop : ∀ gs : List Glyph,
      gs.drop (gs.takeWhile (Glyph.holds isBlank)).length = gs.dropWhile (Glyph.holds isBlank) := by
    intro gs
    have hleft : (gs.takeWhile (Glyph.holds isBlank) ++ gs.dropWhile (Glyph.holds isBlank)).drop
        (gs.takeWhile (Glyph.holds isBlank)).length = gs.dropWhile (Glyph.holds isBlank) := List.drop_left
    rwa [List.takeWhile_append_dropWhile] at hleft
  unfold annotStart?
  simp only [hdrop]
  constructor
  · intro h
    obtain ⟨blanks, htake, hblank⟩ := Mark.takeWhile_holds isBlank (Utf8.glyphs line)
    split at h
    · rename_i tail htail
      have hline := Utf8.flatMap_bytes_glyphs line
      rw [← List.takeWhile_append_dropWhile (p := Glyph.holds isBlank) (l := Utf8.glyphs line), htake, htail,
        List.flatMap_append, Mark.flatMap_bytes_chars, List.flatMap_cons] at hline
      rw [htake, Mark.flatMap_bytes_chars] at h
      refine ⟨blanks, tail.flatMap Glyph.bytes, ⟨?_, hblank⟩, (Option.some.inj h).symm⟩
      rw [← hline, Bytes.ofChars_append, List.append_assoc]
      rfl
    · cases h
  · rintro ⟨blanks, rest, ⟨rfl, hblank⟩, rfl⟩
    have hend : (Glyph.char '@' :: Utf8.glyphs rest).head?.any (Glyph.holds isBlank) = false := rfl
    rw [Utf8.glyphs_ofChars_append, List.map_append, List.append_assoc, List.map_singleton, List.singleton_append,
      Mark.dropWhile_holds_append hblank hend, Mark.takeWhile_holds_append hblank hend, Mark.flatMap_bytes_chars]
    rfl

/-- Whether the lexer passes over a character at the start of a line. -/
def IsPlain (c : Char) : Prop := Mark.Separates false c

/-- White space is plain up to the first that is not. -/
theorem plain_or_split (blanks : List Char) :
    (∀ c ∈ blanks, IsPlain c) ∨ ∃ u c v, blanks = u ++ c :: v ∧ (∀ b ∈ u, IsPlain b) ∧ ¬ IsPlain c := by
  induction blanks with
  | nil => exact .inl (by simp)
  | cons b blanks ih =>
    by_cases hb : IsPlain b
    · obtain hplain | ⟨u, c, v, rfl, hu, hc⟩ := ih
      · exact .inl (List.forall_mem_cons.mpr ⟨hb, hplain⟩)
      · exact .inr ⟨b :: u, c, v, rfl, List.forall_mem_cons.mpr ⟨hb, hu⟩, hc⟩
    · exact .inr ⟨[], b, blanks, rfl, by simp, hb⟩

section
variable {line : Bytes} {blanks : List Char} {rest : Bytes} (h : Opening line blanks rest)
include h

/-- Behind plain white space the first token is the `@`, if the glyph after it can be read. -/
theorem Opening.next_mark (hplain : ∀ c ∈ blanks, IsPlain c) (more : Bytes)
    (hlook : Mark.look (Utf8.glyphs (rest ++ more)) none = none) :
    ∃ l, (Mark.Lexer.ofBytes (line ++ more)).next =
      (.token ⟨1, 1 + blanks.length, (Bytes.ofChars blanks).length⟩ (.rune '@'), l) := by
  rw [h.line_eq, List.append_assoc]
  exact Mark.Lexer.next_first hplain (by decide)
    (Mark.Lexer.yields_single (by decide +kernel) (by decide) (by decide) (by decide) rfl hlook)

theorem Opening.next_spoiled (hplain : ∀ c ∈ blanks, IsPlain c) (more : Bytes) {e : Mark.LexError}
    (hlook : Mark.look (Utf8.glyphs (rest ++ more)) none = some e) :
    ∃ l, (Mark.Lexer.ofBytes (line ++ more)).next = (.failure none e, l) := by
  rw [h.line_eq, List.append_assoc]
  exact Mark.Lexer.next_first_spoiled hplain (by decide) (by decide +kernel) (by decide) (by decide) (by decide) hlook

/-- Other white space is the first token itself. -/
theorem Opening.next_blank (hline : 0x0a ∉ line) {u v : List Char} {c : Char} (hsplit : blanks = u ++ c :: v)
    (hu : ∀ b ∈ u, IsPlain b) (hc : ¬ IsPlain c) (more : Bytes) :
    ∃ l, (Mark.Lexer.ofBytes (line ++ more)).next =
      (.token ⟨1, 1 + u.length, (Bytes.ofChars u).length⟩ (.rune c), l) := by
  have hblank := h.blank
  have hcblank : isBlank c = true := hblank c (by simp [hsplit])
  have hnul : ∀ d, isBlank d = true → d.toNat ≠ 0 := fun d hd hzero =>
    absurd (hzero ▸ toNat_mem_blankCodes hd) (by decide)
  have hsolid : c ≠ '\n' := by
    rintro rfl
    refine hline ?_
    rw [h.line_eq, hsplit]
    exact List.mem_append_left _ ((Utf8.mem_ofChars_iff (c := '\n') (by decide)).mpr (by simp))
  have hnext : Mark.look (Utf8.glyphs (Bytes.ofChars (v ++ ['@']) ++ (rest ++ more))) none = none := by
    rw [Utf8.glyphs_ofChars_append]
    cases v with
    | nil => exact Mark.look_char_cons.mpr (by decide)
    | cons d v => exact Mark.look_char_cons.mpr (hnul d (hblank d (by simp [hsplit])))
  have htoken : Mark.Token.ofSpelling .single (.char c) [c] = .ok (.rune c) := by
    simp [Mark.Token.ofSpelling, hsolid, Glyph.shown]
  have hline' : line ++ more = Bytes.ofChars (u ++ [c]) ++ (Bytes.ofChars (v ++ ['@']) ++ (rest ++ more)) := by
    rw [h.line_eq, hsplit]
    simp
  rw [hline']
  refine Mark.Lexer.next_first hu ?_
    (Mark.Lexer.yields_single (opensToken_of_isBlank hcblank) ?_ (hnul c hcblank) ?_ htoken hnext)
  · rintro rfl
    exact absurd hcblank (by decide)
  · rintro rfl
    exact absurd hcblank (by decide)
  · exact Bool.eq_false_iff.mpr fun hsep => hc (Mark.isBlank_char_iff.mp hsep)

end

/-- The glyphs of a text without NUL can be read. -/
theorem look_of_chars {cs : List Char} (hnul : '\x00' ∉ cs) {front : List Char} {rest : Bytes}
    (h : Bytes.ofChars cs = Bytes.ofChars front ++ rest) : Mark.look (Utf8.glyphs rest) none = none := by
  have hglyphs := congrArg Utf8.glyphs h
  rw [Utf8.glyphs_ofChars, Utf8.glyphs_ofChars_append] at hglyphs
  cases hrest : Utf8.glyphs rest with
  | nil => rfl
  | cons g gs =>
    rw [hrest] at hglyphs
    have hg : g ∈ cs.map Glyph.char := by rw [hglyphs]; simp
    obtain ⟨c, hc, rfl⟩ := List.mem_map.mp hg
    refine Mark.look_char_cons.mpr fun hzero => hnul ?_
    have hchar : c = '\x00' := by rw [← Char.ofNat_toNat c, hzero]
    exact hchar ▸ hc

/-- How a text opens that starts with an annotation line. The first token is the `@` behind plain white space, if the
glyph after it can be read, and otherwise the first white space that is not plain. -/
inductive FirstToken (blanks : List Char) (rest text : Bytes) : Prop
  | mark (hplain : ∀ c ∈ blanks, IsPlain c) (hrest : Mark.look (Utf8.glyphs rest) none = none)
      (hfirst : (Mark.Lexer.ofBytes text).answer 0 =
        .token ⟨1, 1 + blanks.length, (Bytes.ofChars blanks).length⟩ (.rune '@'))
      (hparse : ∀ e, Mark.parse text = .error e → e.pos ≠ some ⟨1, 1 + blanks.length, (Bytes.ofChars blanks).length⟩)
  | spoiled (hplain : ∀ c ∈ blanks, IsPlain c) (e : Mark.LexError) (hrest : Mark.look (Utf8.glyphs rest) none = some e)
      (hfirst : (Mark.Lexer.ofBytes text).answer 0 = .failure none e)
  | blank (u : List Char) (c : Char) (v : List Char) (hsplit : blanks = u ++ c :: v) (hu : ∀ b ∈ u, IsPlain b)
      (hc : ¬ IsPlain c)
      (hfirst : (Mark.Lexer.ofBytes text).answer 0 = .token ⟨1, 1 + u.length, (Bytes.ofChars u).length⟩ (.rune c))
      (hparse : Mark.parse text =
        .error ⟨some ⟨1, 1 + u.length, (Bytes.ofChars u).length⟩, .unexpected (.rune c) .mark⟩)

theorem Opening.firstToken {line : Bytes} {blanks : List Char} {rest : Bytes} (h : Opening line blanks rest)
    (hline : 0x0a ∉ line) (more : Bytes) : FirstToken blanks (rest ++ more) (line ++ more) := by
  have hanswer : ∀ {l : Mark.Lexer} {x : Mark.Lexeme} {l' : Mark.Lexer}, l.next = (x, l') → l.answer 0 = x := by
    intro l x l' hnext
    rw [Mark.Lexer.answer, Mark.Lexer.after, hnext]
  obtain hplain | ⟨u, c, v, hsplit, hu, hc⟩ := plain_or_split blanks
  · cases hlook : Mark.look (Utf8.glyphs (rest ++ more)) none with
    | none =>
      obtain ⟨l, hnext⟩ := h.next_mark hplain more hlook
      exact .mark hplain hlook (hanswer hnext) fun e => Mark.pos_ne_of_first_mark hnext
    | some e =>
      obtain ⟨l, hnext⟩ := h.next_spoiled hplain more hlook
      exact .spoiled hplain e hlook (hanswer hnext)
  · obtain ⟨l, hnext⟩ := h.next_blank hline hsplit hu hc more
    have hmark : c ≠ '@' := by
      rintro rfl
      exact absurd (h.blank '@' (by simp [hsplit])) (by decide)
    exact .blank u c v hsplit hu hc (hanswer hnext) (Mark.parse_eq_error_of_first hmark hnext)

/-- An annotation line, and a text that was extracted, which starts with one, open alike: the lexer finds the `@` first
where the line was found to start with it, unless other white space than blanks, tabs and carriage returns is before
it. Such white space is refused. Nothing but NUL spoils the `@` of a text from a comment. -/
theorem annotation_lines_open (line more file : Bytes) (doc : CommentGroup) :
    (∀ i, 0x0a ∉ line → annotStart? line = some i →
      ∃ blanks rest, Opening line blanks rest ∧ i = (Bytes.ofChars blanks).length ∧
        FirstToken blanks (rest ++ 0x0a :: more) (line ++ 0x0a :: more)) ∧
    ∀ text lines, extract? file doc = some (text, lines) →
      ∃ l ∈ commentLines file doc, ∃ more blanks rest, text = l.text ++ 0x0a :: more ∧ Opening l.text blanks rest ∧
        FirstToken blanks (rest ++ 0x0a :: more) text ∧
        ((∀ c ∈ doc, '\x00' ∉ c.text) → Mark.look (Utf8.glyphs (rest ++ 0x0a :: more)) none = none) := by
  constructor
  · intro i hline hstart
    obtain ⟨blanks, rest, hopening, rfl⟩ := annotStart?_eq_some_iff.mp hstart
    exact ⟨blanks, rest, hopening, rfl, hopening.firstToken hline _⟩
  · intro text lines h
    obtain ⟨before, prose, kept, hdivides, rfl, -⟩ := extract?_eq_some h
    obtain ⟨l, kept, rfl, hl⟩ := hdivides.annotated
    obtain ⟨i, hstart⟩ := Option.isSome_iff_exists.mp hl
    obtain ⟨blanks, rest, hopening, -⟩ := annotStart?_eq_some_iff.mp hstart
    have hall : ∀ l' ∈ l :: kept, l' ∈ commentLines file doc := by
      intro l' hl'
      rw [hdivides.all]
      exact List.mem_append_right _ (List.mem_append_right _ hl')
    have hline : 0x0a ∉ l.text := by
      obtain ⟨line, htext, hone, -⟩ := chars_of_mem_commentLines (hall l List.mem_cons_self)
      rw [htext]
      exact fun hmem => hone ((Utf8.mem_ofChars_iff (c := '\n') (by decide)).mp hmem)
    refine ⟨l, hall l List.mem_cons_self, textOf kept, blanks, rest, textOf_cons l kept, hopening, ?_, fun hdoc => ?_⟩
    · rw [textOf_cons]
      exact hopening.firstToken hline _
    · obtain ⟨cs, hcs, hmem⟩ := textOf_chars hall
      have hnul : '\x00' ∉ cs := by
        intro hzero
        obtain hend | ⟨c, hc, hzero⟩ := hmem _ hzero
        · exact absurd hend (by decide)
        · exact hdoc c hc hzero
      have hsplit : Bytes.ofChars cs = Bytes.ofChars (blanks ++ ['@']) ++ (rest ++ 0x0a :: textOf kept) := by
        rw [← hcs, textOf_cons, hopening.line_eq, List.append_assoc]
      exact look_of_chars hnul hsplit

namespace Spaced

def line : Bytes := Bytes.ofString " \t@M(1)"

def doc : CommentGroup := [⟨"// \t@M(1)".toList, { line := 3, column := 1, offset := 11 }⟩]

end Spaced

open Spaced in
theorem annotation_lines_open_blanks :
    (annotStart? line = some 2 ∧
      ∃ blanks rest, Opening line blanks rest ∧ 2 = (Bytes.ofChars blanks).length ∧
        FirstToken blanks (rest ++ [0x0a]) (line ++ [0x0a])) ∧
      ∃ text lines, extract? [] doc = some (text, lines) ∧
        ∃ l ∈ commentLines [] doc, ∃ more blanks rest, text = l.text ++ 0x0a :: more ∧ Opening l.text blanks rest ∧
          FirstToken blanks (rest ++ 0x0a :: more) text ∧
          Mark.look (Utf8.glyphs (rest ++ 0x0a :: more)) none = none := by
  have hstart : annotStart? line = some 2 := by decide +kernel
  have hextract : (extract? [] doc).isSome := by decide +kernel
  obtain ⟨⟨text, lines⟩, htext⟩ := Option.isSome_iff_exists.mp hextract
  obtain ⟨hlines, htexts⟩ := annotation_lines_open line [] [] doc
  obtain ⟨l, hl, more, blanks, rest, hsplit, hopening, hfirst, hlook⟩ := htexts text lines htext
  exact ⟨⟨hstart, hlines 2 (by decide +kernel) hstart⟩, text, lines, htext, l, hl, more, blanks, rest, hsplit, hopening,
    hfirst, hlook (by decide)⟩

namespace Indented

def line : Bytes := Bytes.ofString "\u00a0@M"

def doc : CommentGroup := [⟨"//\u00a0@M".toList, { line := 3, column := 1, offset := 11 }⟩]

end Indented

open Indented in
/-- A no-break space is white space to the search for annotation lines, and a token to the lexer: what is written
behind it is taken for annotations, and refused. -/
theorem annotation_lines_open_not_behind_noBreakSpace :
    (annotStart? line = some 2 ∧ (Mark.Lexer.ofBytes (line ++ [0x0a])).answer 0 = .token ⟨1, 1, 0⟩ (.rune '\u00a0')) ∧
      ((extract? [] doc).map Prod.fst = some (line ++ [0x0a]) ∧
        Mark.parse (line ++ [0x0a]) = .error ⟨some ⟨1, 1, 0⟩, .unexpected (.rune '\u00a0') .mark⟩) ∧
      ¬ ∀ line i, 0x0a ∉ line → annotStart? line = some i → ∃ p, p.offset = i ∧
        (Mark.Lexer.ofBytes (line ++ [0x0a])).answer 0 = .token p (.rune '@') := by
  have hstart : annotStart? line = some 2 := by decide +kernel
  have hnext : (Mark.Lexer.ofBytes (line ++ [0x0a])).next.1 = .token ⟨1, 1, 0⟩ (.rune '\u00a0') := by decide +kernel
  have hfirst : (Mark.Lexer.ofBytes (line ++ [0x0a])).answer 0 = .token ⟨1, 1, 0⟩ (.rune '\u00a0') := by
    rw [Mark.Lexer.answer, Mark.Lexer.after, hnext]
  have htext : (extract? [] doc).map Prod.fst = some (line ++ [0x0a]) := by decide +kernel
  have hparse : Mark.parse (line ++ [0x0a]) = .error ⟨some ⟨1, 1, 0⟩, .unexpected (.rune '\u00a0') .mark⟩ := by
    cases hread : (Mark.Lexer.ofBytes (line ++ [0x0a])).next with
    | mk first l =>
      rw [hread] at hnext
      subst hnext
      exact Mark.parse_eq_error_of_first (by decide) hread
  refine ⟨⟨hstart, hfirst⟩, ⟨htext, hparse⟩, fun hall => ?_⟩
  obtain ⟨p, -, hmark⟩ := hall line 2 (by decide +kernel) hstart
  rw [hfirst] at hmark
  cases hmark

end ServiceAnnotations.Elements
