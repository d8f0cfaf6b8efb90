import ServiceAnnotations.Proofs.Mark.Soundness

/-! # Tokens with a tree are read -/
namespace ServiceAnnotations.Mark

@[simp] theorem ok_bind {ε α β : Type} (a : α) (f : α → Except ε β) : (Except.ok a >>= f) = f a := rfl

@[simp] theorem pure_eq_ok {ε α : Type} (a : α) : (pure a : Except ε α) = .ok a := rfl

theorem Spot.length_tokens_pos {nested : Bool} (s : Spot nested) (t : Token) : 0 < (s.tokens t).length := by
  simp [tokens]

theorem ValueTree.length_tokens_pos (v : ValueTree) : 0 < v.tokens.length := by
  obtain ⟨s, rest, htokens, -⟩ := v.exists_first
  have := s.length_tokens_pos v.first
  rw [htokens, List.length_append]
  omega

theorem ItemTree.upcoming_append_ne (x : ItemTree) (b : Bracket) (rest : Tokens) :
    upcoming true (x.tokens ++ rest) ≠ some (.rune b.closing) :=
  fun h => x.not_closes_append rest ⟨b, h⟩

namespace Input

variable {i : Input} {nested : Bool} {ending : Lexeme} {ts rest : Tokens} {t : Token}

/-- The next token is the one that stands there. -/
theorem next_of_spot {s : Spot nested} (hi : i.Stands nested ending (s.tokens t ++ rest))
    (ht : nested = true → t ≠ .endOfLine) :
    i.next nested = .ok ((s.pos, t), ⟨(s.pos, t) :: rest, ending⟩) := by
  rw [next_eq hi, settled_spot_append s ht]
  rfl

theorem stands_spot (s : Spot nested) (ht : nested = true → t ≠ .endOfLine) (rest : Tokens)
    (ending : Lexeme) :
    (Input.mk ((s.pos, t) :: rest) ending).Stands nested ending (s.tokens t ++ rest) := by
  refine ⟨?_, rfl⟩
  rw [← settled_spot_append s ht, settled_settled]

/-- There always is a next token when the text has no error. -/
theorem exists_next {pos : Position} (hi : i.Stands nested (.token pos .endOfInput) ts) :
    ∃ (t : Position × Token) (i' : Input), i.next nested = .ok (t, i') ∧
      i'.Stands nested (.token pos .endOfInput) ts ∧
      ∀ c, upcoming nested ts ≠ some (.rune c) → t.2 ≠ .rune c := by
  rw [next_eq hi, upcoming]
  cases hts : settled nested ts with
  | nil => exact ⟨(pos, .endOfInput), _, rfl, ⟨by rw [← hts, settled_settled], rfl⟩, by simp⟩
  | cons p rest => exact ⟨p, _, rfl, ⟨by rw [← hts, settled_settled], rfl⟩, by simp⟩

end Input

section
variable {i : Input} {nested : Bool} {pos : Position} {rest : Tokens}

theorem parseWord_complete {s : Spot nested} {name : String} {ending : Lexeme}
    (hi : i.Stands nested ending (s.tokens (.word name) ++ rest)) :
    parseWord nested i = .ok ((s.pos, name), ⟨rest, ending⟩) := by
  simp [parseWord, Input.next_of_spot hi, Input.behind]

theorem parseReference_complete (r : RefTree nested) (hrest : upcoming nested rest ≠ some (.rune '.'))
    (hi : i.Stands nested (.token pos .endOfInput) (r.tokens ++ rest)) :
    ∃ i', parseReference nested i = .ok (r.reference, i') ∧
      i'.Stands nested (.token pos .endOfInput) rest := by
  cases r with
  | plain s name =>
    obtain ⟨t, i', hnext, hi', ht⟩ := Input.exists_next (Input.stands_mk nested (.token pos .endOfInput) rest)
    refine ⟨i', ?_, hi'⟩
    simp [parseReference, parseWord_complete hi, hnext, ht '.' hrest, RefTree.reference]
  | qualified s package dot member name =>
    simp only [RefTree.tokens, List.append_assoc] at hi
    refine ⟨⟨rest, _⟩, ?_, Input.stands_mk ..⟩
    have hdot := Input.next_of_spot (Input.stands_mk nested (.token pos .endOfInput)
      (dot.tokens (.rune '.') ++ (member.tokens (.word name) ++ rest))) (by simp)
    have hmember := parseWord_complete (Input.stands_mk nested (.token pos .endOfInput)
      (member.tokens (.word name) ++ rest))
    simp [parseReference, parseWord_complete hi, hdot, Input.behind, hmember, RefTree.reference]

/-- A token that is a value by itself. -/
theorem parseValue_atom {fuel : Nat} {s : Spot true} {a : Atom} {ending : Lexeme}
    (hi : i.Stands true ending (s.tokens a.token ++ rest)) :
    parseValue (fuel + 1) i = .ok (.literal a.constant s.pos, ⟨rest, ending⟩) := by
  have hnext := Input.next_of_spot hi fun _ => a.token_ne_endOfLine
  cases a with
  | text value => cases value <;> simp [parseValue, hnext, Atom.token, Atom.constant, Input.behind]
  | _ => simp [parseValue, hnext, Atom.token, Atom.constant, Input.behind]

theorem parseValue_ref (fuel : Nat) (r : RefTree true) (hrest : upcoming true rest ≠ some (.rune '.'))
    (hi : i.Stands true (.token pos .endOfInput) (r.tokens ++ rest)) :
    ∃ i', parseValue (fuel + 1) i = .ok (.ref r.reference, i') ∧
      i'.Stands true (.token pos .endOfInput) rest := by
  obtain ⟨s, more, htokens, -⟩ := r.exists_first
  rw [htokens, List.append_assoc] at hi
  have hnext := Input.next_of_spot hi (by simp)
  have hi₁ := Input.stands_spot s (t := .word r.first) (by simp) (more ++ rest) (.token pos .endOfInput)
  rw [← List.append_assoc, ← htokens] at hi₁
  obtain ⟨i', href, hi'⟩ := parseReference_complete r hrest hi₁
  exact ⟨i', by simp [parseValue, hnext, href], hi'⟩

mutual

/-- A value is read if what follows does not continue it. -/
theorem parseValue_complete (v : ValueTree) {fuel : Nat} {i : Input} {rest : Tokens}
    (hfuel : 3 * v.tokens.length ≤ fuel + 2) (hrest : upcoming true rest ≠ some (.rune '.'))
    (hi : i.Stands true (.token pos .endOfInput) (v.tokens ++ rest)) :
    ∃ i', parseValue fuel i = .ok (v.expr, i') ∧ i'.Stands true (.token pos .endOfInput) rest := by
  have hpos := v.length_tokens_pos
  obtain ⟨fuel, rfl⟩ : ∃ k, fuel = k + 1 := ⟨fuel - 1, by omega⟩
  match v with
  | .ref r => exact parseValue_ref fuel r hrest hi
  | .atom s a => exact ⟨_, parseValue_atom hi, Input.stands_mk ..⟩
  | .negative minus number n =>
    simp only [ValueTree.tokens, List.append_assoc] at hi
    have hminus := Input.next_of_spot hi (by simp)
    have hnumber := Input.next_of_spot (Input.stands_mk true (.token pos .endOfInput)
      (number.tokens (.int n) ++ rest)) (by simp)
    refine ⟨⟨rest, _⟩, ?_, Input.stands_mk ..⟩
    simp [parseValue, hminus, Input.behind, hnumber, ValueTree.expr]
  | .list opened xs closed =>
    simp only [ValueTree.tokens, List.append_assoc, List.length_append] at hi hfuel
    have hopened := Input.next_of_spot hi (by simp)
    have hlength := opened.length_tokens_pos (.rune '\x7b')
    have hlength' := closed.length_tokens_pos (.rune '\x7d')
    have hitems := parseItems_complete xs .brace (by omega : 3 * xs.tokens.length + 1 ≤ fuel)
      (Input.stands_mk true (.token pos .endOfInput) (xs.tokens ++ (closed.tokens (.rune '\x7d') ++ rest)))
    rw [Bracket.closing] at hitems
    refine ⟨⟨rest, _⟩, ?_, Input.stands_mk ..⟩
    simp [parseValue, hopened, Input.behind, hitems, ValueTree.expr]

theorem parseItem_complete (x : ItemTree) {fuel : Nat} {i : Input} {rest : Tokens}
    (hfuel : 3 * x.tokens.length ≤ fuel) (hrest : FollowsItem rest)
    (hi : i.Stands true (.token pos .endOfInput) (x.tokens ++ rest)) :
    ∃ i', parseItem fuel i = .ok (x.item, i') ∧ i'.Stands true (.token pos .endOfInput) rest := by
  match x with
  | .plain v =>
    simp only [ItemTree.tokens] at hi hfuel
    have hlength := v.length_tokens_pos
    obtain ⟨fuel, rfl⟩ : ∃ k, fuel = k + 1 := ⟨fuel - 1, by omega⟩
    obtain ⟨i₁, hv, hi₁⟩ := parseValue_complete v (by omega : _ ≤ fuel + 2) hrest.1 hi
    obtain ⟨t, i₂, hnext, hi₂, ht⟩ := Input.exists_next hi₁
    simp only [parseItem, hv, ok_bind, ItemTree.item]
    split
    · exact ⟨i₂, by simp [hnext, ht ':' hrest.2], hi₂⟩
    · exact ⟨i₁, rfl, hi₁⟩
  | .keyed key name colon v =>
    simp only [ItemTree.tokens, List.append_assoc, List.length_append] at hi hfuel
    have hlength := key.length_tokens_pos (.word name)
    have hlength' := colon.length_tokens_pos (.rune ':')
    obtain ⟨fuel, rfl⟩ : ∃ k, fuel = k + 2 := ⟨fuel - 2, by omega⟩
    obtain ⟨i₁, hkey, hi₁⟩ := parseValue_ref fuel (.plain key name)
      (by simp [upcoming_spot_append]) hi
    have hcolon := Input.next_of_spot hi₁ (by simp)
    obtain ⟨i₂, hv, hi₂⟩ := parseValue_complete v (by omega : _ ≤ fuel + 1 + 2) hrest.1
      (Input.stands_mk true (.token pos .endOfInput) (v.tokens ++ rest))
    exact ⟨i₂, by simp [parseItem, hkey, RefTree.reference, hcolon, Input.behind, hv, ItemTree.item], hi₂⟩

theorem parseItems_complete (xs : ItemsTree) {fuel : Nat} {i : Input} {rest : Tokens} {closed : Spot true}
    (b : Bracket) (hfuel : 3 * xs.tokens.length + 1 ≤ fuel)
    (hi : i.Stands true (.token pos .endOfInput) (xs.tokens ++ (closed.tokens (.rune b.closing) ++ rest))) :
    parseItems b.closing fuel i = .ok (xs.items, ⟨rest, .token pos .endOfInput⟩) := by
  obtain ⟨fuel, rfl⟩ : ∃ k, fuel = k + 1 := ⟨fuel - 1, by omega⟩
  match xs with
  | .none =>
    have hclosed := Input.next_of_spot hi (by simp)
    simp [parseItems, hclosed, Input.behind, ItemsTree.items]
  | .last x =>
    simp only [ItemsTree.tokens] at hi hfuel
    obtain ⟨t, i₁, hnext, hi₁, ht⟩ := Input.exists_next hi
    have hclosed := ht b.closing (x.upcoming_append_ne b _)
    obtain ⟨i₂, hx, hi₂⟩ := parseItem_complete x (by omega : _ ≤ fuel)
      (closes_spot_append b closed rest).followsItem hi₁
    have hcomma : b.closing ≠ ',' := by cases b <;> decide
    have hnext₂ := Input.next_of_spot hi₂ (by simp)
    simp [parseItems, hnext, hclosed, hx, hnext₂, hcomma, Input.behind, ItemsTree.items]
  | .more x comma ys =>
    simp only [ItemsTree.tokens, List.append_assoc, List.length_append] at hi hfuel
    have hlength := comma.length_tokens_pos (.rune ',')
    obtain ⟨t, i₁, hnext, hi₁, ht⟩ := Input.exists_next hi
    have hclosed := ht b.closing (x.upcoming_append_ne b _)
    obtain ⟨i₂, hx, hi₂⟩ := parseItem_complete x (by omega : _ ≤ fuel) (comma_followsItem comma _) hi₁
    have hnext₂ := Input.next_of_spot hi₂ (by simp)
    have hys := parseItems_complete ys b (by omega : _ ≤ fuel)
      (Input.stands_mk true (.token pos .endOfInput) (ys.tokens ++ (closed.tokens (.rune b.closing) ++ rest)))
    simp [parseItems, hnext, hclosed, hx, hnext₂, Input.behind, hys, ItemsTree.items]

end

end

/-- Where an annotation ends, the input or the line does. -/
theorem Ends.exists_peek {rest : Tokens} (hrest : Ends rest) (pos : Position) :
    ∃ t, (Input.mk rest (.token pos .endOfInput)).peek = .ok t ∧ (t.2 = .endOfLine ∨ t.2 = .endOfInput) := by
  cases rest with
  | nil => exact ⟨(pos, .endOfInput), rfl, .inr rfl⟩
  | cons p rest =>
    refine ⟨p, rfl, .inl ?_⟩
    simpa [Ends, upcoming] using hrest

theorem Spot.tokens_eq_singleton (s : Spot false) (t : Token) : s.tokens t = [(s.pos, t)] := by
  simp [tokens, s.flat rfl, lineEnds]

theorem parseArgs_complete (a : ArgsTree) (pos : Position) {fuel : Nat} {rest : Tokens}
    (hfuel : 3 * a.tokens.length ≤ fuel) (hrest : Ends rest) :
    parseArgs fuel ⟨a.tokens ++ rest, .token pos .endOfInput⟩ =
      .ok (a.items?, ⟨rest, .token pos .endOfInput⟩) := by
  cases a with
  | absent =>
    obtain ⟨t, hpeek, ht⟩ := hrest.exists_peek pos
    rcases ht with ht | ht <;> simp [parseArgs, ArgsTree.tokens, hpeek, ht, ArgsTree.items?]
  | given b opened xs closed =>
    simp only [ArgsTree.tokens, List.length_append, Spot.tokens_eq_singleton, List.length_singleton] at hfuel
    have hitems := parseItems_complete xs b (by omega : 3 * xs.tokens.length + 1 ≤ fuel)
      (Input.stands_mk true (.token pos .endOfInput) (xs.tokens ++ (closed.tokens (.rune b.closing) ++ rest)))
    cases b <;>
      simp_all [parseArgs, ArgsTree.tokens, Spot.tokens_eq_singleton, Input.peek, Input.behind,
        Bracket.opening, Bracket.closing, ArgsTree.items?]

theorem parseMark_complete (m : MarkTree) (pos : Position) {fuel : Nat} {rest : Tokens}
    (hfuel : 3 * m.tokens.length ≤ fuel) (hrest : Ends rest) :
    parseMark fuel m.sign ⟨m.tokens ++ rest, .token pos .endOfInput⟩ =
      .ok (m.mark, ⟨rest.tail, .token pos .endOfInput⟩) := by
  obtain ⟨sign, type, args⟩ := m
  simp only [MarkTree.tokens, List.length_cons, List.length_append] at hfuel
  obtain ⟨i₁, htype, hi₁⟩ := parseReference_complete type (args.upcoming_append_ne hrest)
    (Input.stands_mk false (.token pos .endOfInput) (type.tokens ++ (args.tokens ++ rest)))
  obtain rfl := Input.stands_false_iff.mp hi₁
  have hargs := parseArgs_complete args pos (by omega : _ ≤ fuel) hrest
  obtain ⟨t, hpeek, ht⟩ := hrest.exists_peek pos
  rcases ht with ht | ht <;>
    simp [parseMark, MarkTree.tokens, Input.behind, htype, hargs, hpeek, ht, MarkTree.mark]

/-- One annotation is read, and what follows it is read next. -/
theorem parseMarks_mark_append (m : MarkTree) (pos : Position) {fuel : Nat} {rest : Tokens}
    (hfuel : 3 * m.tokens.length ≤ fuel) (hrest : Ends rest) {marks : List Mark}
    (hmarks : parseMarks fuel ⟨rest.tail, .token pos .endOfInput⟩ = .ok marks) :
    parseMarks (fuel + 1) ⟨m.tokens ++ rest, .token pos .endOfInput⟩ = .ok (m.mark :: marks) := by
  have hmark := parseMark_complete m pos hfuel hrest
  have hpeek : (Input.mk (m.tokens ++ rest) (.token pos .endOfInput)).peek = .ok (m.sign, .rune '@') := rfl
  simp [parseMarks, hpeek, hmark, hmarks]

theorem parseMarks_complete (f : FileTree) {fuel : Nat} {pos : Position}
    (hfuel : 3 * f.tokens.length < fuel) :
    parseMarks fuel ⟨f.tokens, .token pos .endOfInput⟩ = .ok f.marks := by
  induction f generalizing fuel with
  | done =>
    obtain ⟨fuel, rfl⟩ : ∃ k, fuel = k + 1 := ⟨fuel - 1, by omega⟩
    rfl
  | lineEnd p rest ih =>
    simp only [FileTree.tokens, List.length_cons] at hfuel
    obtain ⟨fuel, rfl⟩ : ∃ k, fuel = k + 1 := ⟨fuel - 1, by omega⟩
    simpa [parseMarks, FileTree.tokens, Input.peek, Input.behind, FileTree.marks] using ih (by omega)
  | mark m p rest ih =>
    simp only [FileTree.tokens, List.length_append, List.length_cons] at hfuel
    obtain ⟨fuel, rfl⟩ : ∃ k, fuel = k + 1 := ⟨fuel - 1, by omega⟩
    exact parseMarks_mark_append m pos (by omega) (ends_lineEnd _ _) (ih (by omega))
  | lastMark m =>
    simp only [FileTree.tokens] at hfuel
    have hlength : 0 < m.tokens.length := by simp [MarkTree.tokens]
    obtain ⟨fuel, rfl⟩ : ∃ k, fuel = k + 2 := ⟨fuel - 2, by omega⟩
    have hlast := parseMarks_mark_append m pos (by omega : _ ≤ fuel + 1) ends_nil rfl
    simpa [FileTree.tokens, FileTree.marks] using hlast

/-- A text is read just when it can be divided into tokens and these have a tree. -/
theorem parse_eq_ok_iff {b : Bytes} {marks : List Mark} :
    parse b = .ok marks ↔ (∃ pos, (Lexer.ofBytes b).tokens.2.1 = .token pos .endOfInput) ∧
      ∃ tree : FileTree, tree.tokens = (Lexer.ofBytes b).tokens.1 ∧ tree.marks = marks := by
  have hlex := (Lexer.ofBytes b).tokens_ending
  unfold parse
  generalize (Lexer.ofBytes b).tokens = lexed at hlex ⊢
  obtain ⟨tokens, ending, l⟩ := lexed
  obtain ⟨htokens, hfinal⟩ := hlex
  constructor
  · intro h
    obtain ⟨tree, htree, hmarks, hpos⟩ := parseMarks_sound hfinal htokens (by omega : tokens.length < 3 * tokens.length + 3) h
    exact ⟨hpos, tree, htree, hmarks⟩
  · rintro ⟨⟨pos, rfl⟩, tree, rfl, rfl⟩
    exact parseMarks_complete tree (by omega)

/-- Annotations are read by the grammar: a text is read just when it is divided into tokens without
error and they have a tree, which is the only one. What it stands for is what is read, and all its
parts are where their first tokens are. Any other text is refused. -/
theorem parse_follows_grammar (b : Bytes) :
    (∀ marks, parse b = .ok marks ↔ (∃ pos, (Lexer.ofBytes b).tokens.2.1 = .token pos .endOfInput) ∧
      ∃ tree : FileTree, tree.tokens = (Lexer.ofBytes b).tokens.1 ∧ tree.marks = marks) ∧
    (∀ tree tree' : FileTree, tree.tokens = (Lexer.ofBytes b).tokens.1 →
      tree'.tokens = (Lexer.ofBytes b).tokens.1 → tree = tree') ∧
    ((∃ e, parse b = .error e) ↔ (∃ pos e, (Lexer.ofBytes b).tokens.2.1 = .failure pos e) ∨
      ¬ ∃ tree : FileTree, tree.tokens = (Lexer.ofBytes b).tokens.1) ∧
    (∀ m : MarkTree, firstPlace m.tokens = some m.mark.pos) ∧
    (∀ nested, ∀ r : RefTree nested, firstPlace r.tokens = some r.reference.pos) ∧
    (∀ x : ItemTree, firstPlace x.tokens = some x.item.pos) ∧
    ∀ v : ValueTree, firstPlace v.tokens = some v.expr.pos := by
  refine ⟨fun marks => parse_eq_ok_iff, ?_, ?_, MarkTree.firstPlace_tokens,
    fun _ => RefTree.firstPlace_tokens, ItemTree.firstPlace_tokens, ValueTree.firstPlace_tokens⟩
  · exact fun tree tree' htree htree' => FileTree.tokens_injective (htree.trans htree'.symm)
  · have hfinal := (Lexer.ofBytes b).tokens_ending.2
    cases hparse : parse b with
    | ok marks =>
      obtain ⟨⟨pos, hpos⟩, tree, htree, -⟩ := parse_eq_ok_iff.mp hparse
      simp [hpos, ← htree]
    | error e =>
      refine iff_of_true ⟨e, rfl⟩ ?_
      cases hending : (Lexer.ofBytes b).tokens.2.1 with
      | failure pos error => exact .inl ⟨pos, error, rfl⟩
      | token pos t =>
        refine .inr ?_
        rintro ⟨tree, htree⟩
        have hread := parse_eq_ok_iff.mpr ⟨⟨pos, hfinal pos t hending ▸ hending⟩, tree, htree, rfl⟩
        rw [hparse] at hread
        cases hread

end ServiceAnnotations.Mark
