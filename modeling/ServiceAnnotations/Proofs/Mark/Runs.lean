import Mathlib.Data.List.Forall2
import ServiceAnnotations.Proofs.Mark.Yield

/-! # Calls of the lexer in a row

The tokens of a text are what one call after the other returns. Such calls read a stretch of characters; they
return the same tokens when the text goes on otherwise behind it, or when the stretch stands at another place. -/
namespace ServiceAnnotations.Mark
open Text

namespace Lexer

/-- The lexer after some calls. -/
def after (l : Lexer) : Nat → Lexer
  | 0 => l
  | n + 1 => l.next.2.after n

/-- What a call returns after some calls before it. -/
def answer (l : Lexer) (n : Nat) : Lexeme := (l.after n).next.1

/-- Calls in a row that return the tokens `ts` and leave the lexer `l'`. -/
inductive Runs : Lexer → List (Position × Token) → Lexer → Prop
  | nil (l : Lexer) : Runs l [] l
  | cons {l l₁ l' : Lexer} {pos : Position} {t : Token} {ts : List (Position × Token)}
      (hnext : l.next = (.token pos t, l₁)) (ht : t ≠ .endOfInput) (hrest : Runs l₁ ts l') :
      Runs l ((pos, t) :: ts) l'

variable {l l' l₁ m : Lexer} {pos : Position} {t : Token} {ts us : List (Position × Token)}

theorem tokensWithin_fuel {fuel fuel' : Nat} (hfuel : l.rest.length ≤ fuel) (hfuel' : l.rest.length ≤ fuel') :
    tokensWithin fuel l = tokensWithin fuel' l := by
  induction fuel generalizing fuel' l with
  | zero =>
    cases fuel' with
    | zero => rfl
    | succ fuel' =>
      rcases hnext : l.next with ⟨⟨pos, t⟩ | ⟨pos, e⟩, l'⟩
      · obtain rfl := (next_token hnext).resolve_right (by omega)
        simp [tokensWithin, hnext]
      · simp [tokensWithin, hnext]
  | succ fuel ih =>
    rcases hnext : l.next with ⟨⟨pos, t⟩ | ⟨pos, e⟩, l'⟩
    · by_cases ht : t = .endOfInput
      · subst ht
        cases fuel' <;> simp [tokensWithin, hnext]
      · have hlt := (next_token hnext).resolve_left ht
        obtain ⟨fuel', rfl⟩ : ∃ k, fuel' = k + 1 := ⟨fuel' - 1, by omega⟩
        have htail : tokensWithin fuel l' = tokensWithin fuel' l' := ih (by omega) (by omega)
        rw [tokensWithin_token hnext ht, tokensWithin_token hnext ht, htail]
    · cases fuel' <;> simp [tokensWithin, hnext]

theorem tokens_token (h : l.next = (.token pos t, l')) (ht : t ≠ .endOfInput) :
    l.tokens = ((pos, t) :: l'.tokens.1, l'.tokens.2) := by
  have hlt := (next_token h).resolve_left ht
  rw [tokens, tokensWithin_fuel (Nat.le_refl _) (Nat.le_succ _), tokensWithin_token h ht,
    tokensWithin_fuel (Nat.le_of_lt hlt) (Nat.le_refl _)]
  rfl

theorem tokens_endOfInput (h : l.next = (.token pos .endOfInput, l')) :
    l.tokens = ([], .token pos .endOfInput, l') := by
  rw [tokens, tokensWithin_fuel (Nat.le_refl _) (Nat.le_succ _)]
  simp [tokensWithin, h]

theorem tokens_failure {place : Option Position} {e : LexError} (h : l.next = (.failure place e, l')) :
    l.tokens = ([], .failure place e, l') := by
  rw [tokens, tokensWithin_fuel (Nat.le_refl _) (Nat.le_succ _)]
  simp [tokensWithin, h]

/-- The tokens of a text are returned one by one, and its ending behind them. -/
theorem exists_runs (l : Lexer) : ∃ l', Runs l l.tokens.1 l' ∧ l'.next = l.tokens.2 := by
  induction hn : l.rest.length using Nat.strongRecOn generalizing l with
  | _ n ih =>
    subst hn
    rcases hnext : l.next with ⟨⟨pos, t⟩ | ⟨pos, e⟩, l₁⟩
    · by_cases ht : t = .endOfInput
      · subst ht
        exact ⟨l, by rw [tokens_endOfInput hnext]; exact .nil l, by rw [tokens_endOfInput hnext, hnext]⟩
      · obtain ⟨l', hruns, hlast⟩ := ih _ ((next_token hnext).resolve_left ht) l₁ rfl
        rw [tokens_token hnext ht]
        exact ⟨l', .cons hnext ht hruns, hlast⟩
    · exact ⟨l, by rw [tokens_failure hnext]; exact .nil l, by rw [tokens_failure hnext, hnext]⟩

namespace Runs

theorem append (h : Runs l ts l₁) (h' : Runs l₁ us l') : Runs l (ts ++ us) l' := by
  induction h with
  | nil => exact h'
  | cons hnext ht _ ih => exact .cons hnext ht (ih h')

theorem split (h : Runs l (ts ++ us) l') : ∃ l₁, Runs l ts l₁ ∧ Runs l₁ us l' := by
  induction ts generalizing l with
  | nil => exact ⟨l, .nil l, h⟩
  | cons x ts ih =>
    cases h with
    | cons hnext ht hrest =>
      obtain ⟨l₁, hfirst, hlast⟩ := ih hrest
      exact ⟨l₁, .cons hnext ht hfirst, hlast⟩

theorem tokens_eq (h : Runs l ts l') : l.tokens = (ts ++ l'.tokens.1, l'.tokens.2) := by
  induction h with
  | nil => rfl
  | cons hnext ht _ ih => rw [tokens_token hnext ht, ih, List.cons_append]

theorem after_length (h : Runs l ts l') : l.after ts.length = l' := by
  induction h with
  | nil => rfl
  | cons hnext _ _ ih => rw [List.length_cons, after, hnext, ih]

theorem answer_eq (h : Runs l ts l') {n : Nat} (hn : n < ts.length) :
    l.answer n = .token ts[n].1 ts[n].2 := by
  induction h generalizing n with
  | nil => cases hn
  | cons hnext ht _ ih =>
    cases n with
    | zero => rw [answer, after, hnext]; rfl
    | succ n =>
      rw [answer, after, hnext]
      exact ih (Nat.lt_of_succ_lt_succ hn)

/-- Behind a token the text is not at its start any more. -/
theorem isFresh_eq (h : Runs l ts l') (hne : ts ≠ []) : l'.isFresh = false := by
  induction h with
  | nil => exact absurd rfl hne
  | @cons l l₁ l' pos t ts hnext ht hrest ih =>
    cases hrest with
    | nil =>
      obtain ⟨-, gap, -, -, ⟨rfl, -, -⟩ | ⟨cs, -, -, hl⟩⟩ := next_token_cases hnext
      · exact absurd rfl ht
      · rw [hl]
        rfl
    | cons => exact ih (by simp)

end Runs

theorem skipMark_of_not_fresh (h : l.isFresh = false) : l.skipMark = l :=
  skipMark_of_unmarked (by simp [h])

/-- A mark at the start of a text is passed over whatever follows it. -/
theorem skipMark_append {cs : List Char} {rest : List Glyph} (h : l.skipMark.rest = cs.map .char ++ rest)
    (hcs : cs ≠ []) : ∃ v : List Char, v ≠ [] ∧ l.rest = v.map .char ++ rest ∧
      l.skipMark.pos.afterAll (cs.map .char) = l.pos.afterAll (v.map .char) ∧
      ∀ rest', ({ l with rest := v.map .char ++ rest' } : Lexer).skipMark =
        { l.skipMark with rest := cs.map .char ++ rest' } := by
  obtain ⟨hfresh, tail, htail, hskip⟩ | ⟨hunmarked, hskip⟩ := l.skipMark_cases <;> rw [hskip] at h ⊢
  · obtain rfl : tail = cs.map .char ++ rest := h
    exact ⟨'\ufeff' :: cs, by simp, htail, rfl, fun rest' => skipMark_of_mark hfresh rfl⟩
  · refine ⟨cs, hcs, h, rfl, fun rest' => skipMark_of_unmarked fun hfresh => ?_⟩
    obtain ⟨c, cs, rfl⟩ := List.exists_cons_of_ne_nil hcs
    simpa [h] using hunmarked hfresh

theorem next_swap (h : l.next = (.token pos t, l')) (ht : t ≠ .endOfInput) :
    ∃ v : List Char, v ≠ [] ∧ l.rest = v.map .char ++ l'.rest ∧ l'.pos = l.pos.afterAll (v.map .char) ∧
      ∀ rest', SameAhead l'.rest rest' →
        ({ l with rest := v.map .char ++ rest' } : Lexer).next = (.token pos t, { l' with rest := rest' }) := by
  obtain ⟨hstopped, gap, hgap, rfl, ⟨rfl, -, -⟩ | ⟨cs, hrest, hyields, hl'⟩⟩ := next_token_cases h
  · exact absurd rfl ht
  have hcs : cs ≠ [] := hyields.spells.ne_nil
  obtain ⟨v, hv, hl, hpos, hswap⟩ := skipMark_append hrest (by simp [hcs])
  refine ⟨v, hv, hl, ?_, fun rest' hahead => ?_⟩
  · rw [hl', behind, ← hpos]
  · rw [hyields.next_eq { l with rest := v.map .char ++ rest' } gap rest' rfl hstopped hgap hahead (by rw [hswap]), hl']
    simp only [placeBehind, behind, hswap]

/-- Calls in a row read a stretch of characters, and nothing but the glyph behind it. -/
theorem Runs.swap (h : Runs l ts l') :
    ∃ v : List Char, (ts ≠ [] → v ≠ []) ∧ l.rest = v.map .char ++ l'.rest ∧ l'.pos = l.pos.afterAll (v.map .char) ∧
      ∀ rest', SameAhead l'.rest rest' → Runs { l with rest := v.map .char ++ rest' } ts { l' with rest := rest' } := by
  induction h with
  | nil l => exact ⟨[], by simp, rfl, rfl, fun rest' _ => .nil _⟩
  | cons hnext ht _ ih =>
    obtain ⟨v, hv, hrest, hpos, hswap⟩ := next_swap hnext ht
    obtain ⟨v', -, hrest', hpos', hswap'⟩ := ih
    refine ⟨v ++ v', fun _ => by simp [hv], ?_, ?_, fun rest' hahead => ?_⟩
    · rw [hrest, hrest', List.map_append, List.append_assoc]
    · rw [hpos', hpos, List.map_append, Position.afterAll_append]
    · rw [List.map_append, List.append_assoc]
      exact .cons (hswap _ (hrest' ▸ hahead.append _)) ht (hswap' rest' hahead)

/-- Positions compare as `P` says, also behind the same glyph. -/
def KeptByGlyphs (P : Position → Position → Prop) : Prop := ∀ p q g, P p q → P (p.after g) (q.after g)

variable {P : Position → Position → Prop}

theorem KeptByGlyphs.afterAll (hP : KeptByGlyphs P) {p q : Position} (h : P p q) (gs : List Glyph) :
    P (p.afterAll gs) (q.afterAll gs) := by
  induction gs generalizing p q with
  | nil => exact h
  | cons g gs ih => exact ih (hP p q g h)

/-- Lexers that have the same text before them at places that compare as `P` says, and no mark to pass over. -/
structure Moved (P : Position → Position → Prop) (l m : Lexer) : Prop where
  rest : m.rest = l.rest
  continues : m.continues = l.continues
  stopped : m.stopped = none
  unmarked : l.skipMark = l
  unmarked' : m.skipMark = m
  pos : P l.pos m.pos

theorem placeBehind_of_unmarked (h : l.skipMark = l) (gap : List Char) :
    l.placeBehind gap = l.pos.afterAll (gap.map .char) := by
  unfold placeBehind
  split
  · simp [*]
  · rw [h]

theorem Moved.next (hP : KeptByGlyphs P) (hm : Moved P l m) (h : l.next = (.token pos t, l')) :
    ∃ pos' m', m.next = (.token pos' t, m') ∧ P pos pos' ∧ (t ≠ .endOfInput → Moved P l' m') := by
  obtain ⟨-, gap, hgap, rfl, hcases⟩ := next_token_cases h
  have hplace : P (l.placeBehind gap) (m.placeBehind gap) := by
    rw [placeBehind_of_unmarked hm.unmarked, placeBehind_of_unmarked hm.unmarked']
    exact hP.afterAll hm.pos _
  rcases hcases with ⟨rfl, hrest, -⟩ | ⟨cs, hrest, hyields, hl'⟩
  · have hgap' : ∀ c ∈ gap, isBlank m.continues (.char c) = true := by rwa [hm.continues]
    have hnext := next_endOfInput hm.stopped hgap' (by rw [hm.unmarked', hm.rest, ← hm.unmarked, hrest])
    exact ⟨_, _, hnext, hplace, fun hne => absurd rfl hne⟩
  · have hnext := hyields.next_eq m gap l'.rest hm.continues hm.stopped hgap (.refl _)
      (by rw [hm.unmarked', hm.rest, ← hm.unmarked, hrest])
    refine ⟨_, _, hnext, hplace, fun _ => ?_⟩
    rw [hl']
    refine ⟨rfl, rfl, rfl, skipMark_of_not_fresh rfl, skipMark_of_not_fresh rfl, ?_⟩
    rw [behind, behind, hm.unmarked, hm.unmarked']
    exact hP.afterAll hm.pos _

theorem Runs.moved (hP : KeptByGlyphs P) (h : Runs l ts l') (hm : Moved P l m) :
    ∃ us m', Runs m us m' ∧ List.Forall₂ (fun x y => P x.1 y.1 ∧ x.2 = y.2) ts us ∧ Moved P l' m' := by
  induction h generalizing m with
  | nil => exact ⟨[], m, .nil m, .nil, hm⟩
  | cons hnext ht _ ih =>
    obtain ⟨pos', m₁, hnext', hpos, hm₁⟩ := hm.next hP hnext
    obtain ⟨us, m', hruns, hus, hm'⟩ := ih (hm₁ ht)
    exact ⟨_, m', .cons hnext' ht hruns, .cons ⟨hpos, rfl⟩ hus, hm'⟩

end Lexer
end ServiceAnnotations.Mark
