import ServiceAnnotations.Proofs.Mark.Refusal
import ServiceAnnotations.Proofs.Mark.Tiling

/-! # Which faults have a place

A fault that the reader finds stands where the token does at which it is met. An error within a token has no place,
except that of a literal that is well formed and means nothing here. -/
namespace ServiceAnnotations.Mark
open Text

def Malformed (error : Option LexError) : Prop := ∀ literal, error ≠ some (.unsupported literal)

theorem malformed_none : Malformed none := nofun

theorem Malformed.look {error : Option LexError} (h : Malformed error) (rest : List Glyph) :
    Malformed (look rest error) := by
  unfold Mark.look
  split
  · exact nofun
  · split
    · exact nofun
    · exact h
  · exact h

namespace Scan

variable {s : Scan}

theorem malformed_start (rest : List Glyph) : Malformed (start rest).error := malformed_none.look rest

theorem malformed_step (h : Malformed s.error) : Malformed s.step.error := h.look _

theorem malformed_failIf (h : Malformed s.error) (b : Bool) {e : LexError} (he : Malformed (some e)) :
    Malformed (s.failIf b e).error := by
  cases b with
  | false => exact h
  | true => exact he

theorem malformed_skipWhile (h : Malformed s.error) (p : Char → Bool) : Malformed (s.skipWhile p).error := by
  unfold skipWhile
  split
  · exact h.look _
  · exact h

end Scan

namespace Numeral

open Scan

variable {n : Numeral}

theorem malformed_digits (h : Malformed n.scan.error) : Malformed n.digits.scan.error := malformed_skipWhile h _

theorem malformed_ofStart {s : Scan} (h : Malformed s.error) : Malformed (ofStart s).scan.error := by
  unfold ofStart
  split
  · simp only
    split
    · exact malformed_step (malformed_step h)
    · exact malformed_step (malformed_step h)
    · exact malformed_step (malformed_step h)
    · exact malformed_step h
  · exact h

theorem malformed_fraction (h : Malformed n.scan.error) : Malformed n.fraction.scan.error :=
  malformed_digits (malformed_failIf h _ nofun)

theorem malformed_exponent (h : Malformed n.scan.error) : Malformed n.exponent.scan.error := by
  have hwithout : Malformed n.withoutExponent.scan.error := malformed_failIf h _ nofun
  have hsign : ∀ {s : Scan} (p : Char → Bool), Malformed s.error →
      Malformed (if s.step.nextIs p then s.step.step else s.step).error := by
    intro s p hs
    split
    · exact malformed_step (malformed_step hs)
    · exact malformed_step hs
  unfold exponent
  split
  · simp only
    split
    · refine malformed_failIf (malformed_digits ?_) _ nofun
      simp only
      split <;> exact hsign _ (malformed_failIf h _ nofun)
    · exact hwithout
  · exact hwithout

end Numeral

theorem malformed_scanNumeral {whole : List Glyph} {s : Scan} (h : Malformed s.error) (afterPoint : Bool) :
    Malformed (scanNumeral whole s afterPoint).2.error := by
  unfold scanNumeral
  simp only
  refine Scan.malformed_failIf ?_ _ nofun
  split
  · exact nofun
  · refine Numeral.malformed_exponent (Scan.malformed_failIf ?_ _ nofun)
    split
    · exact Numeral.malformed_fraction h
    · have hdigits := Numeral.malformed_digits (Numeral.malformed_ofStart h)
      split
      · exact Numeral.malformed_fraction (Scan.malformed_step hdigits)
      · exact hdigits

def TextStep.error : TextStep → Option LexError
  | close error _ | next _ error _ => error

theorem malformed_plainStep (quote : Char) (g : Glyph) {error : Option LexError} (h : Malformed error) (n : Nat) :
    Malformed (plainStep quote g error n).error := by
  have hend : Malformed (some .notTerminated) := nofun
  unfold plainStep
  split_ifs <;> assumption

theorem malformed_textStep (quote : Char) (state : InText) (g : Glyph) {error : Option LexError}
    (h : Malformed error) (n : Nat) : Malformed (textStep quote state g error n).error := by
  have hbad : Malformed (some .badEscape) := nofun
  have hescape := malformed_plainStep quote g hbad (n + 1)
  cases state with
  | plain => exact malformed_plainStep quote g h n
  | escape =>
    simp only [textStep]
    split_ifs <;> assumption
  | digits base left =>
    simp only [textStep]
    split_ifs <;> assumption

theorem malformed_scanText (quote : Char) (state : InText) (rest : List Glyph) {error : Option LexError}
    (h : Malformed error) (n : Nat) : Malformed (scanText quote state rest error n).1.error := by
  fun_induction scanText quote state rest error n with
  | case1 | case2 => exact fun _ h => by cases h
  | case3 state g rest error n error' n' hstep =>
    have hclose := malformed_textStep quote state g h n
    rw [hstep] at hclose
    exact hclose
  | case4 state g rest error n state' error' n' hstep ih =>
    have hnext := malformed_textStep quote state g h n
    rw [hstep] at hnext
    exact ih (hnext.look rest)

theorem malformed_scanRawText (rest : List Glyph) {error : Option LexError} (h : Malformed error) :
    Malformed (scanRawText rest error).error := by
  fun_induction scanRawText rest error with
  | case1 => exact fun _ h => by cases h
  | case2 => exact h
  | case3 g rest error hg ih => exact ih (h.look rest)

theorem malformed_scanToken (g : Glyph) (tail : List Glyph) : Malformed (scanToken g tail).2.error := by
  have hstart := Scan.malformed_start (g :: tail)
  have hstep := Scan.malformed_step hstart
  unfold scanToken
  simp only
  split
  · exact Scan.malformed_skipWhile hstep _
  split
  · exact malformed_scanNumeral hstart false
  split
  · exact (malformed_scanText '"' .plain tail hstep 0).look _
  · have hquoted := malformed_scanText '\'' .plain tail hstep 0
    have hbad : Malformed (some .badCharacter) := nofun
    exact (Scan.malformed_failIf hquoted _ hbad).look _
  · exact (malformed_scanRawText tail hstep).look _
  · split
    · exact malformed_scanNumeral hstep true
    · exact hstep
  · exact hstep

theorem ofSpelling_eq_error {shape : Shape} {g : Glyph} {cs : List Char} {e : LexError}
    (h : Token.ofSpelling shape g cs = .error e) : e = .unsupported cs := by
  cases shape <;> cases h <;> rfl

/-- The place that is reported for what stands behind `before`. A byte order mark at the start of a text is passed
over, and its place is reported for a token right behind it. -/
def Position.reported (before : List Char) : Position :=
  if before = ['\ufeff'] then .start else Position.start.afterAll (before.map .char)

namespace Position

variable {before : List Char}

theorem reported_of_ne (h : before ≠ ['\ufeff']) : reported before = Position.start.afterAll (before.map .char) :=
  if_neg h

theorem behind_reported (h : before ≠ ['\ufeff']) : (reported before).Behind before := by
  rw [reported_of_ne h]
  exact behind_afterAll before

/-- Lines and columns are counted from one, and no byte behind is counted. -/
theorem reported_bounds (before : List Char) :
    1 ≤ (reported before).line ∧ 1 ≤ (reported before).column ∧
      (reported before).offset ≤ (Bytes.ofChars before).length := by
  by_cases h : before = ['\ufeff']
  · rw [reported, if_pos h]
    exact ⟨Nat.le_refl 1, Nat.le_refl 1, Nat.zero_le _⟩
  · obtain ⟨hoffset, hline, hcolumn⟩ := behind_reported h
    omega

end Position

namespace Lexer

variable {text : Bytes} {read : Tokens} {l l' : Lexer}

theorem lastLineEnd?_eq_some {pos place : Position} {cs : List Char}
    (h : lastLineEnd? pos (cs.map .char) = some place) :
    ∃ u v, cs = u ++ '\n' :: v ∧ place = pos.afterAll (u.map .char) := by
  induction cs generalizing pos with
  | nil => cases h
  | cons c cs ih =>
    rw [List.map_cons, lastLineEnd?, Option.or_eq_some_iff] at h
    obtain hrest | ⟨-, hfirst⟩ := h
    · obtain ⟨u, v, rfl, rfl⟩ := ih hrest
      exact ⟨c :: u, v, rfl, rfl⟩
    · split at hfirst
      · rename_i hc
        cases hc
        cases hfirst
        exact ⟨[], cs, rfl, rfl⟩
      · cases hfirst

/-- A call that meets an error: the blanks before it, and the place that is reported. -/
theorem next_failure_cases {place : Option Position} {e : LexError} (hstopped : l.stopped = none)
    (h : l.next = (.failure place e, l')) :
    ∃ (gap : List Char) (rest : List Glyph), l.skipMark.rest = gap.map .char ++ rest ∧ rest ≠ [] ∧
      (∀ c ∈ gap, isBlank l.continues (.char c) = true) ∧ rest.head?.any (isBlank l.continues) = false ∧
      ((∃ literal, e = .unsupported literal ∧ place = some (l.placeBehind gap)) ∨
        (Malformed (some e) ∧ ∃ passed, passed <+: gap ∧ place = lastLineEnd? l.skipMark.pos (passed.map .char))) := by
  obtain ⟨gap, rest, hrest, hgap, hend⟩ := exists_blanks l.continues l.skipMark.rest
  refine ⟨gap, rest, hrest, ?_⟩
  by_cases hspoiled : gap ≠ [] ∧ ∃ e', look rest none = some e'
  · obtain ⟨hne, e', hlook⟩ := hspoiled
    obtain ⟨l'', hnext⟩ := next_spoiled hstopped hgap hend hrest hne hlook
    cases h.symm.trans hnext
    have hmalformed := malformed_none.look rest
    rw [hlook] at hmalformed
    refine ⟨?_, hgap, hend, .inr ⟨hmalformed, gap.dropLast, List.dropLast_prefix gap, by rw [List.map_dropLast]⟩⟩
    rintro rfl
    cases hlook
  · have hlook : gap ≠ [] → look rest none = none := by
      intro hne
      cases hlook : look rest none with
      | none => rfl
      | some e' => exact absurd ⟨hne, e', hlook⟩ hspoiled
    obtain ⟨ahead, hahead, -, -, -, hnext⟩ := next_behind_blanks hstopped hgap hend hrest hlook
    have hread := hnext.symm.trans h
    unfold readToken at hread
    rw [hahead] at hread
    cases rest with
    | nil => cases hread
    | cons g tail =>
      refine ⟨List.cons_ne_nil _ _, hgap, hend, ?_⟩
      have hmalformed := malformed_scanToken g tail
      simp only at hread
      split at hread
      · rename_i hscan
        cases hread
        exact .inr ⟨hscan ▸ hmalformed, gap, List.prefix_refl gap, rfl⟩
      · split at hread
        · rename_i htoken
          cases hread
          exact .inl ⟨_, ofSpelling_eq_error htoken, rfl⟩
        · cases hread

theorem Runs.stopped_eq {ts : Tokens} (h : Runs l ts l') (hl : l.stopped = none) : l'.stopped = none := by
  induction h with
  | nil => exact hl
  | cons hnext ht _ ih =>
    obtain ⟨-, gap, -, -, ⟨rfl, -, -⟩ | ⟨cs, -, -, hl₁⟩⟩ := next_token_cases hnext
    · exact absurd rfl ht
    · exact ih (by rw [hl₁]; rfl)

/-- What has been read is more than a mark at the start. -/
theorem Runs.passed_ne_mark {ts : Tokens} (h : Runs (ofBytes text) ts l) (hne : ts ≠ []) {passed : List Char}
    (hpassed : Utf8.glyphs text = passed.map .char ++ l.rest) : passed ≠ ['\ufeff'] := by
  rintro rfl
  have hskip : (ofBytes text).skipMark.rest = l.rest := by
    simp [skipMark, ofBytes, ofGlyphs, hpassed]
  cases h with
  | nil => exact hne rfl
  | cons hnext ht hrest =>
    obtain ⟨-, gap, -, -, ⟨rfl, -, -⟩ | ⟨cs, hsplit, hyields, -⟩⟩ := next_token_cases hnext
    · exact absurd rfl ht
    · obtain ⟨v, -, hv, -⟩ := hrest.swap
      have hlength := congrArg List.length (hskip.symm.trans hsplit)
      have hcs := List.length_pos_of_ne_nil hyields.spells.ne_nil
      rw [hv] at hlength
      simp only [List.length_append, List.length_map] at hlength
      omega

/-- Behind tokens, a text has been read as far as the lexer says. Only a mark at the start is passed over. -/
theorem Runs.exists_passed {ts : Tokens} (h : Runs (ofBytes text) ts l) :
    ∃ passed : List Char, Utf8.glyphs text = passed.map .char ++ l.skipMark.rest ∧
      l.skipMark.pos = Position.start.afterAll (passed.map .char) ∧
      (passed = ['\ufeff'] ∧ l.pos = .start ∧ l.continues = false ∨ passed ≠ ['\ufeff'] ∧ l.skipMark = l) := by
  obtain ⟨v, -, hsplit, hpos, -⟩ := h.swap
  by_cases hmark : ts = [] ∧ (Utf8.glyphs text).head? = some (.char '\ufeff')
  · obtain ⟨rfl, hhead⟩ := hmark
    cases h
    obtain ⟨tail, htail⟩ := List.head?_eq_some_iff.mp hhead
    refine ⟨['\ufeff'], ?_, ?_, .inl ⟨rfl, rfl, rfl⟩⟩ <;> simp [skipMark, ofBytes, ofGlyphs, htail]
  · have hskip : l.skipMark = l := by
      by_cases hts : ts = []
      · subst hts
        cases h
        exact (within_ofGlyphs fun hhead => hmark ⟨rfl, hhead⟩).skipMark
      · exact skipMark_of_not_fresh (h.isFresh_eq hts)
    refine ⟨v, by rw [hskip]; exact hsplit, by rw [hskip]; exact hpos, .inr ⟨?_, hskip⟩⟩
    by_cases hts : ts = []
    · rintro rfl
      exact hmark ⟨hts, by rw [show Utf8.glyphs text = _ from hsplit]; rfl⟩
    · exact h.passed_ne_mark hts hsplit

/-- Behind the tokens `read` and the blanks after them, the next token starts with `rest`. What is before it in the
text is `before`. -/
def Comes (text : Bytes) (read : Tokens) (before : List Char) (rest : List Glyph) : Prop :=
  ∃ (l : Lexer) (passed gap : List Char), Runs (ofBytes text) read l ∧ before = passed ++ gap ∧
    Utf8.glyphs text = passed.map .char ++ l.skipMark.rest ∧ l.skipMark.rest = gap.map .char ++ rest ∧
    (∀ c ∈ gap, Separates l.continues c) ∧ rest.head?.any (isBlank l.continues) = false

theorem Comes.glyphs_eq {before : List Char} {rest : List Glyph} (h : Comes text read before rest) :
    Utf8.glyphs text = before.map .char ++ rest := by
  obtain ⟨l, passed, gap, -, rfl, hsplit, hrest, -, -⟩ := h
  rw [hsplit, hrest, List.map_append, List.append_assoc]

theorem Comes.length_le {before : List Char} {rest : List Glyph} (h : Comes text read before rest) :
    (Bytes.ofChars before).length ≤ text.length := by
  rw [← Utf8.flatMap_bytes_glyphs text, h.glyphs_eq, List.flatMap_append, flatMap_bytes_chars, List.length_append]
  exact Nat.le_add_right _ _

/-- Behind tokens there are blanks, and what the next call reads. Its place is the one that is reported for it; a line
end in the blanks has its own place. -/
theorem Runs.comes (h : Runs (ofBytes text) read l) {gap : List Char} {rest : List Glyph}
    (hrest : l.skipMark.rest = gap.map .char ++ rest) (hgap : ∀ c ∈ gap, isBlank l.continues (.char c) = true)
    (hend : rest.head?.any (isBlank l.continues) = false) :
    ∃ before, Comes text read before rest ∧ l.placeBehind gap = .reported before ∧
      ∀ passed place, passed <+: gap → lastLineEnd? l.skipMark.pos (passed.map .char) = some place →
        ∃ u v, before = u ++ '\n' :: v ∧ (∀ c ∈ v, Separates true c) ∧ place = .reported u := by
  obtain ⟨passed, hsplit, hpos, hmark⟩ := h.exists_passed
  have hblank : ∀ c ∈ gap, Separates l.continues c := fun c hc => isBlank_char_iff.mp (hgap c hc)
  have hunmarked : ∀ u : List Char, (∀ c ∈ u, c ∈ gap) → passed ≠ ['\ufeff'] → passed ++ u ≠ ['\ufeff'] := by
    intro u hu hpassed heq
    obtain ⟨-, rfl⟩ | ⟨rfl, -⟩ := List.append_eq_singleton_iff.mp heq
    · obtain hc | hc | hc | ⟨-, hc⟩ := hblank '\ufeff' (hu _ List.mem_cons_self) <;> exact absurd hc (by decide)
    · exact hpassed rfl
  refine ⟨passed ++ gap, ⟨l, passed, gap, h, rfl, hsplit, hrest, hblank, hend⟩, ?_, ?_⟩
  · obtain ⟨rfl, hstart, -⟩ | ⟨hpassed, hskip⟩ := hmark
    · by_cases hne : gap = []
      · subst hne
        exact hstart
      · rw [placeBehind, if_neg hne, hpos, Position.reported_of_ne (by simpa using hne), ← Position.afterAll_append,
          ← List.map_append]
    · rw [placeBehind_of_unmarked hskip, ← hskip, hpos, ← Position.afterAll_append, ← List.map_append,
        Position.reported_of_ne (hunmarked gap (fun _ hc => hc) hpassed)]
  · rintro q place ⟨w, rfl⟩ hlast
    obtain ⟨u, v, rfl, rfl⟩ := lastLineEnd?_eq_some hlast
    have hcontinues : l.continues = true := by
      obtain hc | hc | hc | ⟨hcontinues, -⟩ := hblank '\n' (by simp)
      all_goals first | exact hcontinues | exact absurd hc (by decide)
    obtain ⟨-, -, hstart⟩ | ⟨hpassed, -⟩ := hmark
    · rw [hcontinues] at hstart
      cases hstart
    refine ⟨passed ++ u, v ++ w, by simp, fun c hc => ?_, ?_⟩
    · rw [← hcontinues]
      exact hblank c (by simp only [List.mem_append, List.mem_cons] at hc ⊢; tauto)
    · rw [hpos, ← Position.afterAll_append, ← List.map_append,
        Position.reported_of_ne (hunmarked u (fun c hc => by simp [hc]) hpassed)]

end Lexer

/-- How a fault is met behind the tokens `read`, at what stands behind `before` and starts `rest`. -/
inductive MetAt (read : Tokens) (before : List Char) (rest : List Glyph) : ParseError → Prop
  /-- No list of annotations goes on with a token, which has its place. -/
  | token {cs : List Char} {rest' : List Glyph} {t : Token} (wanted : Wanted) (hrest : rest = cs.map .char ++ rest')
      (hspells : Spells cs t) (hstuck : ∀ f more, FileTree.tokens f ≠ read ++ (.reported before, t) :: more) :
      MetAt read before rest ⟨some (.reported before), .unexpected t wanted⟩
  /-- No list of annotations ends with the text. -/
  | endOfInput (wanted : Wanted) (hrest : rest = []) (hstuck : ∀ f, FileTree.tokens f ≠ read) :
      MetAt read before rest ⟨some (.reported before), .unexpected .endOfInput wanted⟩
  /-- A literal of a kind that annotations do not have, which has its place. -/
  | unsupported (literal : List Char) (hrest : rest ≠ []) :
      MetAt read before rest ⟨some (.reported before), .lexical (.unsupported literal)⟩
  /-- A malformed token, which has no place, or that of a line end passed over on the way to it. -/
  | malformed {place : Option Position} {error : LexError} (hrest : rest ≠ []) (herror : Malformed (some error))
      (hplace : ∀ p, place = some p →
        ∃ u v, before = u ++ '\n' :: v ∧ (∀ c ∈ v, Separates true c) ∧ p = .reported u) :
      MetAt read before rest ⟨place, .lexical error⟩

theorem MetAt.pos_bounds {read : Tokens} {before : List Char} {rest : List Glyph} {e : ParseError}
    (h : MetAt read before rest e) {p : Position} (hp : e.pos = some p) :
    1 ≤ p.line ∧ 1 ≤ p.column ∧ p.offset ≤ (Bytes.ofChars before).length := by
  cases h with
  | malformed _ _ hplace =>
    obtain ⟨u, v, rfl, -, rfl⟩ := hplace p hp
    obtain ⟨hline, hcolumn, hoffset⟩ := Position.reported_bounds u
    rw [Bytes.ofChars_append, List.length_append]
    exact ⟨hline, hcolumn, Nat.le_add_right_of_le hoffset⟩
  | _ =>
    cases hp
    exact Position.reported_bounds before

theorem exists_metAt {text : Bytes} {e : ParseError} (h : parse text = .error e) :
    ∃ (read : Tokens) (before : List Char) (rest : List Glyph), Lexer.Comes text read before rest ∧
      (∃ f more, FileTree.tokens f = read ++ more) ∧ MetAt read before rest e := by
  obtain ⟨htokens, hfinal⟩ := (Lexer.ofBytes text).tokens_ending
  obtain ⟨l, hruns, hlast⟩ := Lexer.exists_runs (.ofBytes text)
  have hstop : StopsAt false (Whole FileTree.tokens) (Whole FileTree.tokens) (Lexer.ofBytes text).tokens.1
      (Lexer.ofBytes text).tokens.2.1 e :=
    parseMarks_stopsAt hfinal htokens (Nat.lt_add_of_pos_right (by decide)) h
  cases hstop with
  | @token read after t wanted hts _ hgoes hstuck =>
    obtain ⟨more, f, hf⟩ := hgoes
    rw [hts] at hruns
    obtain ⟨l₁, hread, hafter⟩ := hruns.split
    cases hafter with
    | cons hnext ht _ =>
      obtain ⟨-, gap, hgap, rfl, ⟨rfl, -, -⟩ | ⟨cs, hrest, hyields, -⟩⟩ := Lexer.next_token_cases hnext
      · exact absurd rfl ht
      rw [List.map_append, List.append_assoc] at hrest
      have hsolid : ∀ rest, (cs.map Glyph.char ++ rest).head?.any (Lexer.isBlank l₁.continues) = false := by
        intro rest
        rw [List.head?_append_of_ne_nil _ (by simpa using hyields.spells.ne_nil)]
        exact hyields.solid
      obtain ⟨before, hcomes, hplace, -⟩ := hread.comes hrest hgap (hsolid _)
      rw [hplace] at hstuck ⊢
      exact ⟨read, before, _, hcomes, ⟨f, more, hf⟩,
        .token wanted rfl hyields.spells fun f more hf => hstuck more ⟨f, hf⟩⟩
  | @endOfInput pos wanted hending hgoes hstuck =>
    obtain ⟨more, f, hf⟩ := hgoes
    have hnext : l.next = (.token pos .endOfInput, l.next.2) := Prod.ext (by rw [hlast, hending]) rfl
    obtain ⟨-, gap, hgap, rfl, ⟨-, hrest, -⟩ | ⟨cs, -, hyields, -⟩⟩ := Lexer.next_token_cases hnext
    · have hsplit : l.skipMark.rest = gap.map .char ++ [] := by rw [hrest, List.append_nil]
      obtain ⟨before, hcomes, hplace, -⟩ := hruns.comes hsplit hgap rfl
      rw [hplace]
      exact ⟨_, before, [], hcomes, ⟨f, more, hf⟩, .endOfInput wanted rfl fun f hf => hstuck ⟨f, hf⟩⟩
    · cases hyields.spells
  | @failure place error hending hgoes =>
    obtain ⟨more, f, hf⟩ := hgoes
    have hnext : l.next = (.failure place error, l.next.2) := Prod.ext (by rw [hlast, hending]) rfl
    obtain ⟨gap, rest, hrest, hne, hgap, hend, hcases⟩ := Lexer.next_failure_cases (hruns.stopped_eq rfl) hnext
    obtain ⟨before, hcomes, hplace, hlines⟩ := hruns.comes hrest hgap hend
    refine ⟨_, before, rest, hcomes, ⟨f, more, hf⟩, ?_⟩
    obtain ⟨literal, rfl, rfl⟩ | ⟨herror, passed, hpassed, rfl⟩ := hcases
    · rw [hplace]
      exact .unsupported literal hne
    · exact .malformed hne herror fun p hp => hlines passed p hpassed hp

/-- A fault is met at the first token with which no list of annotations goes on, at the end of the text if it is no
list of annotations, or at an error in a token. It has the place of what it is met at, with line and column counted
from one, unless this is a malformed token. -/
theorem parse_locates_faults {text : Bytes} {e : ParseError} (h : parse text = .error e) :
    (∀ p, e.pos = some p → 1 ≤ p.line ∧ 1 ≤ p.column ∧ p.offset ≤ text.length) ∧
      ∃ (read : Tokens) (before : List Char) (rest : List Glyph), Lexer.Comes text read before rest ∧
        (∃ f more, FileTree.tokens f = read ++ more) ∧ MetAt read before rest e ∧
        (before ≠ ['\ufeff'] → (Position.reported before).Behind before) := by
  obtain ⟨read, before, rest, hcomes, hgoes, hmet⟩ := exists_metAt h
  refine ⟨fun p hp => ?_, read, before, rest, hcomes, hgoes, hmet, Position.behind_reported⟩
  obtain ⟨hline, hcolumn, hoffset⟩ := hmet.pos_bounds hp
  exact ⟨hline, hcolumn, hoffset.trans hcomes.length_le⟩

theorem parse_locates_faults_word :
    let e : ParseError := ⟨some ⟨2, 5, 9⟩, .unexpected (.word "C") (.comma ')')⟩
    parse (Bytes.ofString "@A(\n\"é\" C)") = .error e ∧
      ∃ (read : Tokens) (before : List Char) (rest : List Glyph),
        Lexer.Comes (Bytes.ofString "@A(\n\"é\" C)") read before rest ∧
          (∃ f more, FileTree.tokens f = read ++ more) ∧ MetAt read before rest e ∧
          (before ≠ ['\ufeff'] → (Position.reported before).Behind before) := by
  intro e
  have h : parse (Bytes.ofString "@A(\n\"é\" C)") = .error e := by rfl
  obtain ⟨-, hmet⟩ := parse_locates_faults h
  exact ⟨h, hmet⟩

/-- A text in quotation marks that does not end is refused without a place, though it starts in the first line. -/
theorem parse_locates_no_malformed_token :
    parse (Bytes.ofString "@A(\"x)") = .error ⟨none, .lexical .notTerminated⟩ ∧
      ¬ ∀ text e, parse text = .error e → ∃ p, e.pos = some p ∧ 1 ≤ p.line ∧ 1 ≤ p.column ∧ p.offset ≤ text.length := by
  have h : parse (Bytes.ofString "@A(\"x)") = .error ⟨none, .lexical .notTerminated⟩ := by rfl
  refine ⟨h, fun hall => ?_⟩
  obtain ⟨p, hp, -⟩ := hall _ _ h
  cases hp

end ServiceAnnotations.Mark
