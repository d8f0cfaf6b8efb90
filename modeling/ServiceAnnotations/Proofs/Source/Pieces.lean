import ServiceAnnotations.Proofs.Source.Words
import ServiceAnnotations.Proofs.Text.Quoted

/-! # Texts that are put together of tokens

How a text is divided into tokens can be told from its back to its front: each rule here puts a blank, a line end or a
token before a text. -/
namespace ServiceAnnotations.Source
open Text

/-- A token without its place. -/
abbrev Piece := TokenKind × List Char

def Token.piece (t : Token) : Piece := (t.kind, t.text)

def sign (s : String) : Piece := (.operator, s.toList)

/-- A text is divided into these tokens, wherever it stands. `pending` tells whether a line end in front would count
as a semicolon. -/
def Divides (pending : Bool) (cs : List Char) (ts : List Piece) : Prop :=
  ∀ fuel spot, cs.length < fuel → (tokensFrom fuel spot pending cs).map Token.piece = ts

theorem Divides.pieces_tokens {cs : List Char} {ts : List Piece} (h : Divides false cs ts) :
    (tokens cs).map Token.piece = ts := h _ _ (Nat.lt_succ_self _)

namespace Divides
variable {b : Bool} {cs : List Char} {ts : List Piece}

theorem nil : Divides false [] [] := by
  intro fuel spot h
  obtain ⟨fuel, rfl⟩ := Nat.exists_eq_succ_of_ne_zero (Nat.ne_of_gt h)
  rfl

theorem lineEnd (h : Divides false cs ts) : Divides true ('\n' :: cs) ((.lineEnd, ['\n']) :: ts) := by
  intro fuel spot hfuel
  obtain ⟨fuel, rfl⟩ := Nat.exists_eq_succ_of_ne_zero (Nat.ne_of_gt (Nat.zero_lt_of_lt hfuel))
  rw [← h fuel (spot.after '\n') (Nat.lt_of_succ_lt_succ hfuel)]
  rfl

theorem newline (h : Divides false cs ts) : Divides false ('\n' :: cs) ts := by
  intro fuel spot hfuel
  obtain ⟨fuel, rfl⟩ := Nat.exists_eq_succ_of_ne_zero (Nat.ne_of_gt (Nat.zero_lt_of_lt hfuel))
  exact h fuel (spot.after '\n') (Nat.lt_of_succ_lt_succ hfuel)

theorem blank {c : Char} (hc : c = ' ' ∨ c = '\t') (h : Divides b cs ts) : Divides b (c :: cs) ts := by
  intro fuel spot hfuel
  obtain ⟨fuel, rfl⟩ := Nat.exists_eq_succ_of_ne_zero (Nat.ne_of_gt (Nat.zero_lt_of_lt hfuel))
  rw [← h fuel (spot.after c) (Nat.lt_of_succ_lt_succ hfuel)]
  rcases hc with rfl | rfl <;> rfl

/-- Whether a character can start a token. Comments start with a slash. -/
def IsFirst (c : Char) : Prop := c ∉ ['\n', ' ', '\t', '\r', '\ufeff', '/']

instance (c : Char) : Decidable (IsFirst c) := inferInstanceAs (Decidable (_ ∉ _))

theorem token {c : Char} {w rest : List Char} {kind : TokenKind} (hc : IsFirst c)
    (htoken : tokenAt c (w ++ rest) = (kind, w.length + 1))
    (h : Divides (endsStatement kind (c :: w)) rest ts) :
    Divides b (c :: w ++ rest) ((kind, c :: w) :: ts) := by
  intro fuel spot hfuel
  obtain ⟨fuel, rfl⟩ := Nat.exists_eq_succ_of_ne_zero (Nat.ne_of_gt (Nat.zero_lt_of_lt hfuel))
  have htake : (c :: (w ++ rest)).take (w.length + 1) = c :: w := by simp
  have hdrop : (c :: (w ++ rest)).drop (w.length + 1) = rest := by simp
  have hrest : rest.length < fuel := by
    simp only [List.cons_append, List.length_cons, List.length_append] at hfuel
    omega
  simp only [IsFirst, List.mem_cons, List.not_mem_nil, or_false, not_or] at hc
  simp only [List.cons_append, tokensFrom, hc, htoken, htake, hdrop]
  simp only [reduceIte, Bool.or_false, Bool.false_and, decide_false, Bool.false_eq_true,
    List.map_cons, Token.piece]
  rw [h fuel _ hrest]

theorem takeWhile_append {cs rest : List Char} (hcs : ∀ d ∈ cs, isWordTail d)
    (hrest : rest.head?.all (!isWordTail ·)) : (cs ++ rest).takeWhile isWordTail = cs := by
  rw [List.takeWhile_append_of_pos hcs]
  cases rest with
  | nil => simp
  | cons d rest =>
    have hd : isWordTail d = false := by simpa using hrest
    simp [hd]

theorem isFirst_of_isWordStart {c : Char} (hc : isWordStart c = true) : IsFirst c := by
  have hblanks : ['\n', ' ', '\t', '\r', '\ufeff', '/'].all (!isWordStart ·) := by decide +kernel
  intro hmem
  have hother := List.all_eq_true.mp hblanks c hmem
  rw [hc] at hother
  cases hother

section
variable {w rest : List Char} (hrest : rest.head?.all (!isWordTail ·))
include hrest

theorem word (hw : IsWord w) (h : Divides true rest ts) : Divides b (w ++ rest) ((.word, w) :: ts) := by
  obtain ⟨c, cs, rfl, hc, hcs⟩ := hw.start
  refine token (isFirst_of_isWordStart hc) ?_ h
  simp only [tokenAt, hc, if_true, takeWhile_append hcs hrest, if_neg hw.notKeyword]

theorem keyword (hw : String.ofList w ∈ keywords) (h : Divides (endsStatement .keyword w) rest ts) :
    Divides b (w ++ rest) ((.keyword, w) :: ts) := by
  have hletters : ∀ k ∈ keywords, k.toList.head?.any isWordStart ∧ k.toList.tail.all isWordTail := by decide
  obtain ⟨hc, hcs⟩ := hletters _ hw
  rw [String.toList_ofList] at hc hcs
  cases w with
  | nil => cases hc
  | cons c cs =>
    have hstart : isWordStart c = true := by simpa using hc
    refine token (isFirst_of_isWordStart hstart) ?_ h
    rw [List.tail_cons, List.all_eq_true] at hcs
    simp only [tokenAt, hstart, if_true, takeWhile_append hcs hrest, if_pos hw]

end

theorem isDigit_eq_false_of_isWordStart {c : Char} (h : isWordStart c = true) : c.isDigit = false := by
  have hdigits : ∀ n : Fin 10, isWordStart (Char.ofNat (0x30 + n)) = false := by decide
  rw [Bool.eq_false_iff]
  intro hc
  obtain ⟨hlow, hhigh⟩ : 0x30 ≤ c.toNat ∧ c.toNat ≤ 0x39 := by
    simpa [Char.isDigit, UInt32.le_iff_toNat_le] using hc
  have hstart := hdigits ⟨c.toNat - 0x30, by omega⟩
  rw [show 0x30 + (c.toNat - 0x30) = c.toNat by omega, Char.ofNat_toNat, h] at hstart
  cases hstart

/-- Operators that start with a dot start with two. -/
theorem operatorLength_dot {c : Char} (hc : c ≠ '.') (rest : List Char) : operatorLength ('.' :: c :: rest) = 1 := by
  have hops : ∀ op ∈ longOperators, 2 ≤ op.toList.length ∧
      ((op.toList.take 2).head? = some '.' → op.toList.take 2 = ['.', '.']) := by decide
  have hnone : longOperators.find? (fun op => op.toList.isPrefixOf ('.' :: c :: rest)) = none := by
    rw [List.find?_eq_none]
    intro op hop hprefix
    obtain ⟨hlength, hdots⟩ := hops op hop
    obtain ⟨tail, htail⟩ := List.isPrefixOf_iff_prefix.mp hprefix
    have htwo : op.toList.take 2 = ['.', c] := by
      rw [← List.take_append_of_le_length hlength, htail]
      rfl
    rw [htwo] at hdots
    exact hc (by simpa using hdots rfl)
  rw [operatorLength, hnone]

/-- A bracket is a token whatever comes behind it. -/
theorem bracket {c : Char} (hc : c ∈ ['(', ')', '\x7b', '\x7d']) {rest : List Char}
    (h : Divides (endsStatement .operator [c]) rest ts) : Divides b (c :: rest) ((.operator, [c]) :: ts) := by
  simp only [List.mem_cons, List.not_mem_nil, or_false] at hc
  rcases hc with rfl | rfl | rfl | rfl <;> exact token (w := []) (by decide) rfl h

theorem assignment {c : Char} (hc : c ∈ [':', '+']) {rest : List Char} (h : Divides false rest ts) :
    Divides b (c :: '=' :: rest) ((.operator, [c, '=']) :: ts) := by
  simp only [List.mem_cons, List.not_mem_nil, or_false] at hc
  rcases hc with rfl | rfl <;> exact token (w := ['=']) (by decide) rfl h

theorem plus {rest : List Char} (h : Divides false (' ' :: rest) ts) :
    Divides b ('+' :: ' ' :: rest) ((.operator, ['+']) :: ts) := token (w := []) (by decide) rfl h

/-- A dot in front of a word. -/
theorem dot {rest : List Char} (hrest : rest.head?.any isWordStart) (h : Divides false rest ts) :
    Divides b ('.' :: rest) ((.operator, ['.']) :: ts) := by
  cases rest with
  | nil => cases hrest
  | cons c rest =>
    have hstart : isWordStart c = true := by simpa using hrest
    have hdot : c ≠ '.' := by
      rintro rfl
      exact absurd hstart (by decide)
    refine token (w := []) (by decide) ?_ h
    change (if c.isDigit = true then _ else _) = _
    rw [isDigit_eq_false_of_isWordStart hstart]
    exact congrArg (TokenKind.operator, ·) (operatorLength_dot hdot rest)

theorem string (s : String) {rest : List Char} (h : Divides true rest ts) :
    Divides b ((Quoted.string s).toList ++ rest) ((.string, (Quoted.string s).toList) :: ts) := by
  obtain ⟨cs, hcs, htoken⟩ := Quoted.tokenAt_string s rest
  rw [hcs]
  exact token (by decide) htoken h

end Divides

end ServiceAnnotations.Source
