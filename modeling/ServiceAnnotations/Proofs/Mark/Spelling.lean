import ServiceAnnotations.Proofs.Mark.Numerals

/-! # The source texts of tokens

A token is read from characters that spell it. The scan that reads it there reads it from these characters
wherever they stand, if the glyph behind them is the same or a blank. -/
namespace ServiceAnnotations.Mark
open Text

theorem plainStep_close {quote : Char} {g : Glyph} {error : Option LexError} {n m : Nat}
    (h : plainStep quote g error n = .close none m) : g = .char quote ∧ error = none := by
  unfold plainStep at h
  split at h
  · exact ⟨‹_›, by simpa using congrArg (fun s => match s with | .close e _ => e | _ => none) h⟩
  · split at h
    · cases h
    · split at h <;> cases h

theorem plainStep_next {quote : Char} {g : Glyph} {error e : Option LexError} {n m : Nat} {state : InText}
    (h : plainStep quote g error n = .next state e m) : g ≠ .char quote ∧ g ≠ .char '\n' ∧ e = error := by
  unfold plainStep at h
  split at h
  · cases h
  · split at h
    · cases h
    · split at h
      · cases h
        exact ⟨‹_›, ‹_›, rfl⟩
      · cases h
        exact ⟨‹_›, ‹_›, rfl⟩

/-- Outside plain characters a text goes on as it was, or as behind a wrong escape. -/
theorem textStep_cases {quote : Char} {state : InText} (hstate : state ≠ .plain) (g : Glyph)
    (error : Option LexError) (n : Nat) :
    (∃ state' m, textStep quote state g error n = .next state' error m) ∨
      textStep quote state g error n = plainStep quote g (some .badEscape) (n + 1) := by
  cases state with
  | plain => exact absurd rfl hstate
  | escape =>
    unfold textStep
    simp only
    repeat' split
    all_goals first | exact .inl ⟨_, _, rfl⟩ | exact .inr rfl
  | digits base left =>
    unfold textStep
    simp only
    repeat' split
    all_goals first | exact .inl ⟨_, _, rfl⟩ | exact .inr rfl

/-- A text is closed without error by its quote alone. -/
theorem textStep_close {quote : Char} {state : InText} {g : Glyph} {error : Option LexError} {n m : Nat}
    (h : textStep quote state g error n = .close none m) : g = .char quote ∧ error = none := by
  by_cases hstate : state = .plain
  · subst hstate
    exact plainStep_close h
  · rcases @textStep_cases quote state hstate g error n with ⟨state', k, hnext⟩ | hplain
    · rw [hnext] at h
      cases h
    · rw [hplain] at h
      cases (plainStep_close h).2

/-- A text goes on without error behind a glyph that is no line end. -/
theorem textStep_next {quote : Char} (hquote : quote ≠ '\n') {state state' : InText} {g : Glyph}
    {error : Option LexError} {n m : Nat} (h : textStep quote state g error n = .next state' none m) :
    g ≠ .char '\n' ∧ error = none := by
  by_cases hstate : state = .plain
  · subst hstate
    obtain ⟨-, hend, he⟩ := plainStep_next h
    exact ⟨hend, he.symm⟩
  · constructor
    · rintro rfl
      have hclose : textStep quote state (.char '\n') error n =
          plainStep quote (.char '\n') (some .badEscape) (n + 1) := by
        cases state with
        | plain => exact absurd rfl hstate
        | escape => simp [textStep, Glyph.holds, hquote.symm]
        | digits base left => simp [textStep, Glyph.holds, Literal.digitValue?]
      rw [hclose] at h
      exact (plainStep_next h).2.1 rfl
    · rcases @textStep_cases quote state hstate g error n with ⟨state', k, hnext⟩ | hplain
      · rw [hnext] at h
        cases h
        rfl
      · rw [hplain] at h
        cases (plainStep_next h).2.2

/-- What stands ahead between quotes does not depend on what stands behind them. -/
theorem look_body {body : List Char} {quote : Char} {rest : List Glyph}
    (h : look (body.map .char ++ .char quote :: rest) none = none) (rest' : List Glyph) :
    look (body.map .char ++ .char quote :: rest') none = none :=
  SameAhead.look (.inl (by cases body <;> rfl)) h

/-- A quoted text is read again wherever it stands. -/
theorem scanText_run {quote : Char} (hquote : quote ≠ '\n') {state : InText} {gs rest : List Glyph}
    {error : Option LexError} {n m : Nat} (hlook : error = none → look gs none = none)
    (h : scanText quote state gs error n = (⟨rest, none⟩, m)) :
    error = none ∧ ∃ body : List Char, gs = body.map .char ++ .char quote :: rest ∧ '\n' ∉ body ∧
      ∀ rest', scanText quote state (body.map .char ++ .char quote :: rest') none n = (⟨rest', none⟩, m) := by
  fun_induction scanText quote state gs error n with
  | case1 | case2 => cases h
  | case3 state g gs error n error' n' hstep =>
    obtain ⟨⟨rfl, rfl⟩, rfl⟩ : (gs = rest ∧ error' = none) ∧ n' = m := by simpa using h
    obtain ⟨rfl, rfl⟩ := textStep_close hstep
    refine ⟨rfl, [], rfl, by simp, fun rest' => ?_⟩
    simp [scanText, hstep]
  | case4 state g gs error n state' error' n' hstep ih =>
    obtain ⟨herror, body, hgs, hbody, hrun⟩ := ih (fun he => (look_eq_none_iff.mp he).1) h
    obtain ⟨hclean, rfl⟩ := look_eq_none_iff.mp herror
    obtain ⟨hend, rfl⟩ := textStep_next hquote hstep
    obtain ⟨c, rfl, -⟩ := exists_char_of_look (hlook rfl)
    refine ⟨rfl, c :: body, by rw [hgs]; rfl, ?_, fun rest' => ?_⟩
    · rw [List.mem_cons, not_or]
      exact ⟨fun hc => hend (by rw [← hc]), hbody⟩
    · rw [hgs] at hclean
      rw [List.map_cons, List.cons_append, scanText, hstep]
      simp only [look_body hclean rest']
      exact hrun rest'

/-- A text in back quotes is read again wherever it stands. -/
theorem scanRawText_run {gs rest : List Glyph} {error : Option LexError}
    (hlook : error = none → look gs none = none) (h : scanRawText gs error = ⟨rest, none⟩) :
    error = none ∧ ∃ body : List Char, gs = body.map .char ++ .char '\x60' :: rest ∧ '\x60' ∉ body ∧
      ∀ rest', scanRawText (body.map .char ++ .char '\x60' :: rest') none = ⟨rest', none⟩ := by
  fun_induction scanRawText gs error with
  | case1 => cases h
  | case2 gs error =>
    obtain ⟨rfl, rfl⟩ : gs = rest ∧ error = none := by simpa using h
    exact ⟨rfl, [], rfl, by simp, fun rest' => by simp [scanRawText]⟩
  | case3 g gs error hg ih =>
    obtain ⟨herror, body, hgs, hbody, hrun⟩ := ih (fun he => (look_eq_none_iff.mp he).1) h
    obtain ⟨hclean, rfl⟩ := look_eq_none_iff.mp herror
    obtain ⟨c, rfl, -⟩ := exists_char_of_look (hlook rfl)
    refine ⟨rfl, c :: body, by rw [hgs]; rfl, ?_, fun rest' => ?_⟩
    · rw [List.mem_cons, not_or]
      exact ⟨fun hc => hg (by rw [← hc]), hbody⟩
    · rw [hgs] at hclean
      rw [List.map_cons, List.cons_append, scanRawText, if_neg hg, look_body hclean rest']
      exact hrun rest'

def opensToken (c : Char) : Bool := isWordStart c || c.isDigit || c == '"' || c == '\'' || c == '\x60'

def standsAlone (c : Char) : Bool := !(isSpacing c || opensToken c)

inductive Spells : List Char → Token → Prop
  | word {c : Char} {cs : List Char} (hc : isWordStart c) (hcs : ∀ d ∈ cs, isWordTail d)
      (hyes : String.ofList (c :: cs) ≠ "true") (hno : String.ofList (c :: cs) ≠ "false") :
      Spells (c :: cs) (.word (String.ofList (c :: cs)))
  | yes {cs : List Char} (hcs : String.ofList cs = "true") : Spells cs .yes
  | no {cs : List Char} (hcs : String.ofList cs = "false") : Spells cs .no
  | int {c : Char} {cs : List Char} (hc : c.isDigit) (hcs : ∀ d ∈ cs, isNumeralTail d) :
      Spells (c :: cs) (.int (Literal.nat (c :: cs)))
  | text {body : List Char} (hbody : '\n' ∉ body) :
      Spells ('"' :: body ++ ['"']) (.text (Literal.quoted ('"' :: body ++ ['"'])))
  | rawText {body : List Char} (hbody : '\x60' ∉ body) :
      Spells ('\x60' :: body ++ ['\x60']) (.rawText (Literal.raw ('\x60' :: body ++ ['\x60'])))
  | endOfLine : Spells ['\n'] .endOfLine
  | rune {c : Char} (hc : standsAlone c) : Spells [c] (.rune c)

theorem isWordTail_eq_false_of_isSpacing {c : Char} (h : isSpacing c) : isWordTail c = false := by
  rcases eq_of_isSpacing h with rfl | rfl | rfl | rfl <;> decide

theorem Spells.ne_nil {cs : List Char} {t : Token} (h : Spells cs t) : cs ≠ [] := by
  rintro rfl
  cases h with
  | yes hcs => exact absurd hcs (by decide)
  | no hcs => exact absurd hcs (by decide)

/-- Line ends are tokens of their own, or stand in raw texts. -/
theorem Spells.token_of_lineEnd {cs : List Char} {t : Token} (h : Spells cs t) (hmem : '\n' ∈ cs) :
    cs = ['\n'] ∧ t = .endOfLine ∨ ∃ value, t = .rawText value := by
  have hletter : ∀ (p : Char → Bool), p '\n' = false → ∀ ds : List Char, (∀ d ∈ ds, p d = true) → '\n' ∉ ds :=
    fun p hp ds hds hn => by simpa [hp] using hds _ hn
  cases h with
  | word hc hcs =>
    rcases List.mem_cons.mp hmem with rfl | hmem
    · exact absurd hc (by decide)
    · exact absurd hmem (hletter _ (isWordTail_eq_false_of_isSpacing (by decide)) _ hcs)
  | yes hcs =>
    obtain rfl : cs = "true".toList := by rw [← hcs, String.toList_ofList]
    exact absurd hmem (by decide)
  | no hcs =>
    obtain rfl : cs = "false".toList := by rw [← hcs, String.toList_ofList]
    exact absurd hmem (by decide)
  | int hc hcs =>
    rcases List.mem_cons.mp hmem with rfl | hmem
    · cases hc
    · exact absurd hmem (hletter _ (by decide) _ hcs)
  | text hbody => simp [hbody] at hmem
  | rawText => exact .inr ⟨_, rfl⟩
  | endOfLine => exact .inl ⟨rfl, rfl⟩
  | rune hc =>
    obtain rfl := List.mem_singleton.mp hmem
    exact absurd hc (by decide)

theorem spells_of_word {c : Char} {cs : List Char} (hc : isWordStart c) (hcs : ∀ d ∈ cs, isWordTail d) {t : Token}
    (ht : Token.ofSpelling .word (.char c) (c :: cs) = .ok t) : Spells (c :: cs) t := by
  unfold Token.ofSpelling at ht
  simp only [Except.ok.injEq] at ht
  split at ht
  · exact ht ▸ .yes ‹_›
  · split at ht
    · exact ht ▸ .no ‹_›
    · exact ht ▸ .word hc hcs ‹_› ‹_›

/-- A scan of a token gives what it gives wherever the token's characters stand. -/
structure ScansAgain (shape : Shape) (c : Char) (cs : List Char) (rest : List Glyph) : Prop where
  ne_nul : c.toNat ≠ 0
  clean : look rest none = none
  scanToken_eq : ∀ rest', SameAhead rest rest' →
    scanToken (.char c) (cs.map .char ++ rest') = (shape, ⟨rest', none⟩)

theorem look_of_step {g : Glyph} {tail : List Glyph} (h : (Scan.start (g :: tail)).step.error = none) :
    look (g :: tail) none = none ∧ look tail none = none :=
  (look_eq_none_iff.mp h).symm

theorem step_start {c : Char} {tail tail' : List Glyph} (h : look (.char c :: tail) none = none)
    (htail' : look tail' none = none) : (Scan.start (.char c :: tail')).step = ⟨tail', none⟩ := by
  have hstart : look (.char c :: tail') none = none := look_char_cons.mpr (look_char_cons.mp h)
  rw [Scan.start_run hstart, Scan.step_run htail']

theorem scanToken_word {c : Char} (hc : isWordStart c) (tail : List Glyph) :
    scanToken (.char c) tail = (.word, (Scan.start (.char c :: tail)).step.skipWhile isWordTail) := by
  unfold scanToken
  simp only [Glyph.holds, hc, if_true]

theorem scansAgain_word {c : Char} {tail rest : List Glyph} (hc : isWordStart c)
    (h : scanToken (.char c) tail = (.word, ⟨rest, none⟩)) :
    ∃ cs : List Char, tail = cs.map .char ++ rest ∧ (∀ d ∈ cs, isWordTail d) ∧ ScansAgain .word c cs rest := by
  rw [scanToken_word hc, Prod.mk.injEq] at h
  obtain ⟨cs, rest₁, hrun, hcs, hend, hlook⟩ := Scan.of_error_skipWhile
    (fun he => (look_eq_none_iff.mp he).1) (congrArg Scan.error h.2)
  rw [hrun, Scan.skipWhile_run hcs hend hlook, Scan.mk.injEq] at h
  obtain ⟨-, rfl, -⟩ := h
  obtain rfl : tail = cs.map Glyph.char ++ rest₁ := congrArg Scan.rest hrun
  obtain ⟨hstart, htail⟩ := look_of_step (congrArg Scan.error hrun)
  refine ⟨cs, rfl, hcs, look_char_cons.mp hstart, hlook, fun rest' hahead => ?_⟩
  have hend' := hahead.any_holds (fun d hd => isWordTail_eq_false_of_isSpacing hd) hend
  rw [scanToken_word hc, step_start hstart ((hahead.append _).look htail),
    Scan.skipWhile_run hcs hend' (hahead.look hlook)]

theorem scanToken_numeral {c : Char} (hword : isWordStart c = false) (hc : c.isDigit) (tail : List Glyph) :
    scanToken (.char c) tail = scanNumeral (.char c :: tail) (.start (.char c :: tail)) false := by
  unfold scanToken
  simp only [Glyph.holds, hword, hc, Bool.false_eq_true, if_false, if_true]

theorem shape_scanNumeral (whole : List Glyph) (s : Scan) :
    (scanNumeral whole s false).1 = .int ∨ (scanNumeral whole s false).1 = .float :=
  Numeral.shape_conclude whole _

theorem scansAgain_int {c : Char} {tail rest : List Glyph} (hword : isWordStart c = false) (hc : c.isDigit)
    (h : scanToken (.char c) tail = (.int, ⟨rest, none⟩)) :
    ∃ cs : List Char, tail = cs.map .char ++ rest ∧ (∀ d ∈ cs, isNumeralTail d) ∧ ScansAgain .int c cs rest := by
  rw [scanToken_numeral hword hc] at h
  obtain ⟨cs, htail, hcs, hlook, hrun⟩ := scanNumeral_run hc h
  have hnul : c.toNat ≠ 0 := fun h => absurd hc (by rw [← Char.ofNat_toNat c, h]; decide)
  refine ⟨cs, htail, hcs, hnul, hlook, fun rest' hahead => ?_⟩
  rw [scanToken_numeral hword hc]
  exact hrun rest' hahead

def Scan.sight (s : Scan) : Scan := ⟨s.rest, look s.rest s.error⟩

theorem Scan.sight_eq_iff {s : Scan} {rest : List Glyph} :
    s.sight = ⟨rest, none⟩ ↔ s = ⟨rest, none⟩ ∧ look rest none = none := by
  obtain ⟨rest₁, error⟩ := s
  simp only [sight, mk.injEq]
  constructor
  · rintro ⟨rfl, h⟩
    obtain ⟨hlook, rfl⟩ := look_eq_none_iff.mp h
    exact ⟨⟨rfl, rfl⟩, hlook⟩
  · rintro ⟨⟨rfl, rfl⟩, hlook⟩
    exact ⟨rfl, hlook⟩

/-- What is read up to a closing quote is read again wherever it stands. -/
theorem scansAgain_closed {quote : Char} {shape : Shape} (scan : List Glyph → Option LexError → Scan)
    {P : List Char → Prop} {tail rest : List Glyph} (hquote : quote.toNat ≠ 0)
    (hscan : ∀ tail, scanToken (.char quote) tail =
      (shape, (scan tail (Scan.start (.char quote :: tail)).step.error).sight))
    (hread : ∀ {error : Option LexError}, (error = none → look tail none = none) → scan tail error = ⟨rest, none⟩ →
      error = none ∧ ∃ body : List Char, tail = body.map .char ++ .char quote :: rest ∧ P body ∧
        ∀ rest', scan (body.map .char ++ .char quote :: rest') none = ⟨rest', none⟩)
    (h : scanToken (.char quote) tail = (shape, ⟨rest, none⟩)) :
    ∃ body : List Char, tail = (body ++ [quote]).map .char ++ rest ∧ P body ∧
      ScansAgain shape quote (body ++ [quote]) rest := by
  rw [hscan, Prod.mk.injEq, Scan.sight_eq_iff] at h
  obtain ⟨-, hend, hlook⟩ := h
  obtain ⟨herror, body, rfl, hbody, hrun⟩ := hread (fun he => (look_of_step he).2) hend
  refine ⟨body, by simp, hbody, hquote, hlook, fun rest' hahead => ?_⟩
  obtain ⟨hstart, htail⟩ := look_of_step herror
  rw [List.map_append, List.append_assoc, List.map_singleton, List.singleton_append, hscan,
    step_start hstart (look_body htail rest'), hrun, Prod.mk.injEq, Scan.sight_eq_iff]
  exact ⟨rfl, rfl, hahead.look hlook⟩

theorem scanToken_quote (tail : List Glyph) :
    scanToken (.char '"') tail =
      (.text, (scanText '"' .plain tail (Scan.start (.char '"' :: tail)).step.error 0).1.sight) := rfl

theorem scanToken_backQuote (tail : List Glyph) :
    scanToken (.char '\x60') tail =
      (.rawText, (scanRawText tail (Scan.start (.char '\x60' :: tail)).step.error).sight) := rfl

theorem scansAgain_text {tail rest : List Glyph} (h : scanToken (.char '"') tail = (.text, ⟨rest, none⟩)) :
    ∃ body : List Char, tail = (body ++ ['"']).map .char ++ rest ∧ '\n' ∉ body ∧
      ScansAgain .text '"' (body ++ ['"']) rest := by
  have hquote : '"' ≠ '\n' := by decide
  refine scansAgain_closed (fun tail error => (scanText '"' .plain tail error 0).1) (by decide) scanToken_quote
    (fun hlook hend => ?_) h
  obtain ⟨herror, body, htail, hbody, hrun⟩ := scanText_run hquote hlook (Prod.ext hend rfl)
  exact ⟨herror, body, htail, hbody, fun rest' => congrArg Prod.fst (hrun rest')⟩

theorem scansAgain_rawText {tail rest : List Glyph} (h : scanToken (.char '\x60') tail = (.rawText, ⟨rest, none⟩)) :
    ∃ body : List Char, tail = (body ++ ['\x60']).map .char ++ rest ∧ '\x60' ∉ body ∧
      ScansAgain .rawText '\x60' (body ++ ['\x60']) rest :=
  scansAgain_closed scanRawText (by decide) scanToken_backQuote scanRawText_run h

theorem scanToken_single {c : Char} (hc : opensToken c = false) {tail : List Glyph}
    (hpoint : c = '.' → tail.head?.any (Glyph.holds Char.isDigit) = false) :
    scanToken (.char c) tail = (.single, (Scan.start (.char c :: tail)).step) := by
  simp only [opensToken, Bool.or_eq_false_iff, beq_eq_false_iff_ne] at hc
  obtain ⟨⟨⟨⟨hword, hdigit⟩, hquote⟩, happ⟩, hback⟩ := hc
  unfold scanToken
  simp only [Glyph.holds, hword, hdigit, Bool.false_eq_true, if_false]
  split
  · exact absurd (Glyph.char.inj ‹_›) hquote
  · exact absurd (Glyph.char.inj ‹_›) happ
  · exact absurd (Glyph.char.inj ‹_›) hback
  · have hnext := hpoint (Glyph.char.inj ‹_›)
    rw [if_neg]
    simpa [Scan.nextIs, Scan.start] using hnext
  · rfl

theorem scansAgain_single {c : Char} {tail rest : List Glyph} (hc : opensToken c = false)
    (hpoint : c = '.' → tail.head?.any (Glyph.holds Char.isDigit) = false)
    (h : scanToken (.char c) tail = (.single, ⟨rest, none⟩)) : tail = rest ∧ ScansAgain .single c [] rest := by
  rw [scanToken_single hc hpoint, Prod.mk.injEq] at h
  obtain rfl : tail = rest := congrArg Scan.rest h.2
  obtain ⟨hstart, hlook⟩ := look_of_step (congrArg Scan.error h.2)
  refine ⟨rfl, look_char_cons.mp hstart, hlook, fun rest' hahead => ?_⟩
  have hpoint' : c = '.' → rest'.head?.any (Glyph.holds Char.isDigit) = false := fun hdot =>
    hahead.any_holds (fun d hd => by rcases eq_of_isSpacing hd with rfl | rfl | rfl | rfl <;> rfl) (hpoint hdot)
  rw [List.map_nil, List.nil_append, scanToken_single hc hpoint', step_start hstart (hahead.look hlook)]

theorem scanToken_fraction {tail : List Glyph} (h : tail.head?.any (Glyph.holds Char.isDigit) = true) :
    scanToken (.char '.') tail = scanNumeral (.char '.' :: tail) (Scan.start (.char '.' :: tail)).step true := by
  have hnext : (Scan.start (.char '.' :: tail)).step.nextIs Char.isDigit = true := h
  unfold scanToken
  simp only [hnext, if_true]
  rfl

theorem spells_of_single {c : Char} (hopens : opensToken c = false) (hblank : Lexer.isBlank false (.char c) = false)
    {t : Token} (ht : Token.ofSpelling .single (.char c) [c] = .ok t) : Spells [c] t := by
  obtain rfl : (if Glyph.char c = .char '\n' then Token.endOfLine else .rune c) = t := Except.ok.inj ht
  by_cases hend : c = '\n'
  · subst hend
    exact .endOfLine
  · rw [if_neg (by simpa using hend)]
    refine .rune ?_
    simp only [Lexer.isBlank, Bool.false_and, Bool.or_false, Bool.or_eq_false_iff, decide_eq_false_iff_not,
      Glyph.char.injEq] at hblank
    simp [standsAlone, isSpacing, hopens, hblank, hend]

/-- What is read as a token spells it, and is read as this token again. -/
theorem scanToken_run {g : Glyph} {tail rest : List Glyph} {shape : Shape} {t : Token}
    (hg : Lexer.isBlank false g = false) (h : scanToken g tail = (shape, ⟨rest, none⟩))
    (ht : Token.ofSpelling shape g (spelling (g :: tail) rest) = .ok t) :
    ∃ (c : Char) (cs : List Char), g = .char c ∧ tail = cs.map .char ++ rest ∧ Spells (c :: cs) t ∧
      ScansAgain shape c cs rest := by
  obtain ⟨c, rfl⟩ : ∃ c, g = .char c := by
    cases g with
    | char c => exact ⟨c, rfl⟩
    | stray b => cases (look_of_step (congrArg (Scan.error ∘ Prod.snd) h)).1
  have hspelling : ∀ cs : List Char, tail = cs.map .char ++ rest →
      spelling (.char c :: tail) rest = c :: cs := by
    rintro cs rfl
    exact spelling_append (c :: cs) rest
  by_cases hword : isWordStart c = true
  · obtain rfl : Shape.word = shape := by
      rw [scanToken_word hword] at h
      exact (Prod.mk.inj h).1
    obtain ⟨cs, htail, hcs, hagain⟩ := scansAgain_word hword h
    rw [hspelling cs htail] at ht
    exact ⟨c, cs, rfl, htail, spells_of_word hword hcs ht, hagain⟩
  rw [Bool.not_eq_true] at hword
  by_cases hdigit : c.isDigit = true
  · obtain rfl : Shape.int = shape := by
      rcases shape_scanNumeral (.char c :: tail) (.start (.char c :: tail)) with hshape | hshape
      · rw [← hshape, ← scanToken_numeral hword hdigit, h]
      · rw [← scanToken_numeral hword hdigit, h] at hshape
        obtain rfl : shape = .float := hshape
        cases ht
    obtain ⟨cs, htail, hcs, hagain⟩ := scansAgain_int hword hdigit h
    rw [hspelling cs htail] at ht
    obtain rfl := Except.ok.inj ht
    exact ⟨c, cs, rfl, htail, .int hdigit hcs, hagain⟩
  rw [Bool.not_eq_true] at hdigit
  by_cases hquote : c = '"'
  · subst hquote
    obtain rfl : Shape.text = shape := (Prod.mk.inj h).1
    obtain ⟨body, htail, hbody, hagain⟩ := scansAgain_text h
    rw [hspelling _ htail] at ht
    obtain rfl := Except.ok.inj ht
    exact ⟨'"', body ++ ['"'], rfl, htail, .text hbody, hagain⟩
  by_cases hback : c = '\x60'
  · subst hback
    obtain rfl : Shape.rawText = shape := (Prod.mk.inj h).1
    obtain ⟨body, htail, hbody, hagain⟩ := scansAgain_rawText h
    rw [hspelling _ htail] at ht
    obtain rfl := Except.ok.inj ht
    exact ⟨'\x60', body ++ ['\x60'], rfl, htail, .rawText hbody, hagain⟩
  by_cases happ : c = '\''
  · subst happ
    obtain rfl : Shape.character = shape := (Prod.mk.inj h).1
    cases ht
  have hopens : opensToken c = false := by simp [opensToken, hword, hdigit, hquote, hback, happ]
  by_cases hpoint : c = '.' ∧ tail.head?.any (Glyph.holds Char.isDigit) = true
  · obtain ⟨rfl, hnext⟩ := hpoint
    obtain rfl : Shape.float = shape := by
      rw [scanToken_fraction hnext, scanNumeral_afterPoint] at h
      rw [← Numeral.shape_conclude_fraction, h]
    cases ht
  · have hnext : c = '.' → tail.head?.any (Glyph.holds Char.isDigit) = false := by simpa using hpoint
    obtain rfl : Shape.single = shape := by
      rw [scanToken_single hopens hnext] at h
      exact (Prod.mk.inj h).1
    obtain ⟨rfl, hagain⟩ := scansAgain_single hopens hnext h
    rw [hspelling [] rfl] at ht
    refine ⟨c, [], rfl, rfl, spells_of_single hopens hg ht, hagain⟩

end ServiceAnnotations.Mark
