import ServiceAnnotations.Mark.Lexer

/-! # Dividing a text comes to its end

Every token takes a glyph, so the tokens of a text are followed by the end of the input or by an
error, and by nothing else. -/
namespace ServiceAnnotations.Mark
open Text

namespace Scan

@[simp] theorem rest_step (s : Scan) : s.step.rest = s.rest.tail := rfl

@[simp] theorem rest_fail (s : Scan) (e : LexError) : (s.fail e).rest = s.rest := rfl

@[simp] theorem rest_failIf (s : Scan) (b : Bool) (e : LexError) : (s.failIf b e).rest = s.rest := by
  cases b <;> rfl

theorem rest_skipWhile (p : Char → Bool) (s : Scan) :
    (s.skipWhile p).rest = s.rest.dropWhile (Glyph.holds p) := by
  unfold skipWhile nextIs
  cases hs : s.rest with
  | nil => simp [hs]
  | cons g rest => by_cases hg : g.holds p = true <;> simp [hg, hs]

theorem suffix_skipWhile (p : Char → Bool) (s : Scan) : (s.skipWhile p).rest <:+ s.rest := by
  rw [rest_skipWhile]
  exact List.dropWhile_suffix _

end Scan

namespace Numeral

theorem suffix_digits (n : Numeral) : n.digits.scan.rest <:+ n.scan.rest := Scan.suffix_skipWhile _ _

theorem suffix_fraction (n : Numeral) : n.fraction.scan.rest <:+ n.scan.rest := by
  refine (suffix_digits _).trans ?_
  simp

theorem suffix_exponent (n : Numeral) : n.exponent.scan.rest <:+ n.scan.rest := by
  unfold exponent
  split
  · simp only
    split
    · simp only [Scan.rest_failIf]
      refine (suffix_digits _).trans ?_
      simp only
      have htail : n.scan.rest.tail.tail <:+ n.scan.rest := (List.tail_suffix _).trans (List.tail_suffix _)
      split <;> split <;> simp only [Scan.rest_step, Scan.rest_failIf, List.tail_suffix, htail]
    · simp [withoutExponent]
  · simp [withoutExponent]

/-- A numeral takes its first digit. -/
theorem suffix_digits_ofStart {s : Scan} {g : Glyph} {tail : List Glyph} (hs : s.rest = g :: tail)
    (hg : g.holds Char.isDigit = true) : (ofStart s).digits.scan.rest <:+ tail := by
  unfold ofStart
  by_cases hzero : s.nextIs (· == '0') = true
  · rw [if_pos hzero]
    refine (suffix_digits _).trans ?_
    simp only
    split <;> simp [hs, List.tail_suffix]
  · rw [if_neg hzero]
    have hdigit : g.holds (Radix.decimal.accepts) = true := by
      cases g with
      | char c => simpa [Glyph.holds, Radix.accepts] using .inr hg
      | stray b => cases hg
    change (s.skipWhile _).rest <:+ _
    rw [Scan.rest_skipWhile, hs, List.dropWhile_cons, if_pos hdigit]
    exact List.dropWhile_suffix _

end Numeral

/-- Checking the parts of a numeral reads nothing. -/
private theorem suffix_checked (n : Numeral) (whole rest : List Glyph) (hn : n.scan.rest <:+ rest) :
    let n := { n with scan := n.scan.failIf (!n.hasDigit) (.noDigits n.radix) }.exponent
    let s := match n.isInteger, n.tooLarge with
      | true, some c => n.scan.fail (.badDigit c n.radix)
      | _, _ => n.scan
    (s.failIf (n.hasSeparator && !Numeral.isWellSeparated (spelling whole s.rest)) .badSeparator).rest <:+
      rest := by
  intro n' s
  have hs : s.rest = n'.scan.rest := by
    simp only [s]
    split <;> rfl
  rw [Scan.rest_failIf, hs]
  refine (Numeral.suffix_exponent _).trans ?_
  simpa using hn

theorem suffix_scanNumeral {whole : List Glyph} {s : Scan} {g : Glyph} {tail : List Glyph}
    (hs : s.rest = g :: tail) (hg : g.holds Char.isDigit = true) :
    (scanNumeral whole s false).2.rest <:+ tail := by
  have hdigits := Numeral.suffix_digits_ofStart hs hg
  refine suffix_checked _ whole _ ?_
  simp only [Bool.false_eq_true, if_false]
  split
  · refine (Numeral.suffix_fraction _).trans ?_
    exact (List.tail_suffix _).trans hdigits
  · exact hdigits

theorem suffix_scanNumeral_afterPoint (whole : List Glyph) (s : Scan) :
    (scanNumeral whole s true).2.rest <:+ s.rest :=
  suffix_checked _ whole _ (Numeral.suffix_fraction _)

theorem suffix_scanText (quote : Char) (state : InText) (rest : List Glyph) (error : Option LexError)
    (n : Nat) : (scanText quote state rest error n).1.rest <:+ rest := by
  fun_induction scanText quote state rest error n with
  | case1 | case2 => exact List.nil_suffix
  | case3 => exact List.suffix_cons _ _
  | case4 state error n g rest state' error' n' hstep ih => exact ih.trans (List.suffix_cons _ _)

theorem suffix_scanRawText (rest : List Glyph) (error : Option LexError) :
    (scanRawText rest error).rest <:+ rest := by
  fun_induction scanRawText rest error with
  | case1 => exact List.nil_suffix
  | case2 => exact List.suffix_cons _ _
  | case3 error g rest hg ih => exact ih.trans (List.suffix_cons _ _)

theorem suffix_scanToken (g : Glyph) (tail : List Glyph) : (scanToken g tail).2.rest <:+ tail := by
  unfold scanToken
  simp only
  split
  · exact Scan.suffix_skipWhile _ _
  · split
    · exact suffix_scanNumeral rfl ‹_›
    · split
      · exact suffix_scanText ..
      · simp only [Scan.rest_failIf]
        exact suffix_scanText ..
      · exact suffix_scanRawText ..
      · split
        · exact suffix_scanNumeral_afterPoint ..
        · exact List.suffix_refl _
      · exact List.suffix_refl _

theorem ofSpelling_ne_endOfInput {shape : Shape} {g : Glyph} {cs : List Char} :
    Token.ofSpelling shape g cs ≠ .ok .endOfInput := by
  unfold Token.ofSpelling
  cases shape with
  | word =>
    simp only
    split
    · simp
    · split <;> simp
  | single =>
    simp only
    split <;> simp
  | _ => simp

namespace Lexer

theorem readToken_token {l l' : Lexer} {pos pos' : Position} {lineEnd : Option Position} {t : Token}
    (h : l.readToken pos lineEnd = (.token pos' t, l')) :
    l.rest = [] ∧ t = .endOfInput ∨ t ≠ .endOfInput ∧ l'.rest.length < l.rest.length := by
  unfold readToken at h
  cases hrest : l.rest with
  | nil =>
    rw [hrest] at h
    simp only [Prod.mk.injEq, Lexeme.token.injEq] at h
    exact .inl ⟨rfl, h.1.2.symm⟩
  | cons g tail =>
    rw [hrest] at h
    have hlength := (suffix_scanToken g tail).length_le
    simp only at h
    split at h
    · simp at h
    · split at h
      · simp at h
      · rename_i t' htoken
        simp only [Prod.mk.injEq, Lexeme.token.injEq] at h
        obtain ⟨⟨-, rfl⟩, rfl⟩ := h
        refine .inr ⟨?_, by simpa using Nat.lt_succ_of_le hlength⟩
        exact fun hend => ofSpelling_ne_endOfInput (hend ▸ htoken)

theorem skipMark_of_mark {l : Lexer} {tail : List Glyph} (hfresh : l.isFresh = true)
    (hrest : l.rest = .char '\ufeff' :: tail) :
    l.skipMark = { l with rest := tail, pos := l.pos.after (.char '\ufeff') } := by
  simp [skipMark, hfresh, hrest]

theorem skipMark_of_unmarked {l : Lexer} (h : l.isFresh = true → l.rest.head? ≠ some (.char '\ufeff')) :
    l.skipMark = l := by
  unfold skipMark
  split
  · rename_i g rest hfresh hrest
    have hmark := h hfresh
    rw [hrest] at hmark
    exact if_neg fun hg => hmark (congrArg some hg)
  · rfl

/-- A mark at the very start is passed over, and nothing else. -/
theorem skipMark_cases (l : Lexer) :
    (l.isFresh = true ∧ ∃ tail, l.rest = .char '\ufeff' :: tail ∧
      l.skipMark = { l with rest := tail, pos := l.pos.after (.char '\ufeff') }) ∨
    (l.isFresh = true → l.rest.head? ≠ some (.char '\ufeff')) ∧ l.skipMark = l := by
  by_cases hmark : l.isFresh = true ∧ l.rest.head? = some (.char '\ufeff')
  · obtain ⟨hfresh, hhead⟩ := hmark
    obtain ⟨tail, htail⟩ := List.head?_eq_some_iff.mp hhead
    exact .inl ⟨hfresh, tail, htail, skipMark_of_mark hfresh htail⟩
  · have hunmarked := fun hfresh hhead => hmark ⟨hfresh, hhead⟩
    exact .inr ⟨hunmarked, skipMark_of_unmarked hunmarked⟩

theorem length_skipMark_le (l : Lexer) : l.skipMark.rest.length ≤ l.rest.length := by
  obtain ⟨-, tail, hrest, hskip⟩ | ⟨-, hskip⟩ := l.skipMark_cases
  · simp [hskip, hrest]
  · exact Nat.le_of_eq (by rw [hskip])

theorem length_skipBlanks_le (l : Lexer) : l.skipBlanks.rest.length ≤ l.rest.length :=
  (List.dropWhile_suffix _).length_le

theorem next_token {l l' : Lexer} {pos : Position} {t : Token} (h : l.next = (.token pos t, l')) :
    t = .endOfInput ∨ l'.rest.length < l.rest.length := by
  have hmark := l.length_skipMark_le
  unfold next at h
  split at h
  · simp at h
  · simp only at h
    split at h
    · rcases readToken_token h with ⟨-, rfl⟩ | ⟨-, hlt⟩
      · exact .inl rfl
      · exact .inr (Nat.lt_of_lt_of_le hlt hmark)
    · split at h
      · simp at h
      · have hblanks := l.skipMark.length_skipBlanks_le
        rcases readToken_token h with ⟨-, rfl⟩ | ⟨-, hlt⟩
        · exact .inl rfl
        · exact .inr (by omega)

theorem tokensWithin_token {l l' : Lexer} {pos : Position} {t : Token} (h : l.next = (.token pos t, l'))
    (ht : t ≠ .endOfInput) (fuel : Nat) :
    tokensWithin (fuel + 1) l = ((pos, t) :: (tokensWithin fuel l').1, (tokensWithin fuel l').2) := by
  cases t <;> first | exact absurd rfl ht | simp [tokensWithin, h]

/-- The end of the input comes last, and nothing else does but an error. -/
theorem tokensWithin_ending (fuel : Nat) (l : Lexer) (hfuel : l.rest.length ≤ fuel) :
    (∀ t ∈ (tokensWithin fuel l).1, t.2 ≠ .endOfInput) ∧
      ∀ pos t, (tokensWithin fuel l).2.1 = .token pos t → t = .endOfInput := by
  induction fuel generalizing l with
  | zero =>
    refine ⟨by simp [tokensWithin], ?_⟩
    intro pos t h
    have hnext : l.next = (.token pos t, l.next.2) := Prod.ext h rfl
    rcases next_token hnext with ht | hlt
    · exact ht
    · omega
  | succ fuel ih =>
    rcases hnext : l.next with ⟨⟨pos, t⟩ | ⟨pos, e⟩, l'⟩
    · by_cases ht : t = .endOfInput
      · subst ht
        simp [tokensWithin, hnext]
      · have hlt := (next_token hnext).resolve_left ht
        obtain ⟨htokens, hending⟩ := ih l' (by omega)
        rw [tokensWithin_token hnext ht]
        exact ⟨by simpa [ht] using htokens, hending⟩
    · simp [tokensWithin, hnext]

theorem tokens_ending (l : Lexer) :
    (∀ t ∈ l.tokens.1, t.2 ≠ .endOfInput) ∧ ∀ pos t, l.tokens.2.1 = .token pos t → t = .endOfInput :=
  tokensWithin_ending _ l (Nat.le_refl _)

end Lexer

end ServiceAnnotations.Mark
