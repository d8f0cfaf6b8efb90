import ServiceAnnotations.Proofs.Mark.Grammar

/-! # Line ends within brackets

Where a bracket is open, a line end more makes no difference: the tokens still have a tree, and it stands for the
same annotations. -/
namespace ServiceAnnotations.Mark

def Token.opens : Token → Int
  | rune c => if c = '(' ∨ c = '\x7b' then 1 else if c = ')' ∨ c = '\x7d' then -1 else 0
  | _ => 0

def openBrackets : Tokens → Int
  | [] => 0
  | x :: ts => x.2.opens + openBrackets ts

@[simp] theorem openBrackets_nil : openBrackets [] = 0 := rfl

@[simp] theorem openBrackets_cons (x : Position × Token) (ts : Tokens) :
    openBrackets (x :: ts) = x.2.opens + openBrackets ts := rfl

@[simp] theorem openBrackets_append (ts us : Tokens) :
    openBrackets (ts ++ us) = openBrackets ts + openBrackets us := by
  induction ts with
  | nil => simp
  | cons x ts ih =>
    rw [List.cons_append, openBrackets_cons, openBrackets_cons, ih]
    omega

theorem openBrackets_eq_zero {ts : Tokens} (h : ∀ x ∈ ts, x.2.opens = 0) : openBrackets ts = 0 := by
  induction ts with
  | nil => rfl
  | cons x ts ih =>
    rw [List.forall_mem_cons] at h
    rw [openBrackets_cons, h.1, ih h.2, Int.add_zero]

@[simp] theorem openBrackets_lineEnds (gap : List Position) : openBrackets (lineEnds gap) = 0 := by
  refine openBrackets_eq_zero fun x hx => ?_
  obtain ⟨pos, -, rfl⟩ := List.mem_map.mp hx
  rfl

@[simp] theorem openBrackets_spot {nested : Bool} (s : Spot nested) (t : Token) :
    openBrackets (s.tokens t) = t.opens := by
  simp [Spot.tokens]

theorem opens_opening (b : Bracket) : (Token.rune b.opening).opens = 1 := by cases b <;> rfl

theorem opens_closing (b : Bracket) : (Token.rune b.closing).opens = -1 := by cases b <;> rfl

@[simp] theorem Atom.opens_token (a : Atom) : a.token.opens = 0 := by cases a <;> rfl

/-- No bracket stands in a reference. -/
theorem RefTree.opens_eq_zero {nested : Bool} (r : RefTree nested) : ∀ x ∈ r.tokens, x.2.opens = 0 := by
  have hspot : ∀ (s : Spot nested) {t : Token}, t.opens = 0 → ∀ x ∈ s.tokens t, x.2.opens = 0 := by
    intro s t ht x hx
    rcases List.mem_append.mp hx with hx | hx
    · obtain ⟨pos, -, rfl⟩ := List.mem_map.mp hx
      rfl
    · obtain rfl := List.mem_singleton.mp hx
      exact ht
  cases r with
  | plain spot name => exact hspot spot rfl
  | qualified spot package dot member name =>
    simp only [tokens, List.forall_mem_append]
    exact ⟨⟨hspot spot rfl, hspot dot rfl⟩, hspot member rfl⟩

@[simp] theorem RefTree.openBrackets_tokens {nested : Bool} (r : RefTree nested) : openBrackets r.tokens = 0 :=
  openBrackets_eq_zero r.opens_eq_zero

mutual

/-- What a value opens it closes. -/
theorem ValueTree.openBrackets_tokens : ∀ v : ValueTree, openBrackets v.tokens = 0
  | .ref name => name.openBrackets_tokens
  | .atom spot value => by simp [ValueTree.tokens]
  | .negative minus number value => by simp [ValueTree.tokens, Token.opens]
  | .list opened items closed => by
    simp [ValueTree.tokens, ItemsTree.openBrackets_tokens items, Token.opens]

theorem ItemTree.openBrackets_tokens : ∀ x : ItemTree, openBrackets x.tokens = 0
  | .plain value => ValueTree.openBrackets_tokens value
  | .keyed key name colon value => by
    simp [ItemTree.tokens, ValueTree.openBrackets_tokens value, Token.opens]

theorem ItemsTree.openBrackets_tokens : ∀ xs : ItemsTree, openBrackets xs.tokens = 0
  | .none => rfl
  | .last item => ItemTree.openBrackets_tokens item
  | .more item comma rest => by
    simp [ItemsTree.tokens, ItemTree.openBrackets_tokens item, ItemsTree.openBrackets_tokens rest, Token.opens]

end

theorem ArgsTree.openBrackets_tokens (a : ArgsTree) : openBrackets a.tokens = 0 := by
  cases a with
  | absent => rfl
  | given b opened items closed =>
    simp [tokens, items.openBrackets_tokens, opens_opening, opens_closing]

theorem MarkTree.openBrackets_tokens (m : MarkTree) : openBrackets m.tokens = 0 := by
  simp [tokens, m.args.openBrackets_tokens, Token.opens]

/-- A line end may be put before any of the tokens, and what comes of it satisfies `A`. -/
def TakesLineEnd (ts : Tokens) (A : Tokens → Prop) : Prop :=
  ∀ before rest pos, ts = before ++ rest → rest ≠ [] → A (before ++ (pos, .endOfLine) :: rest)

theorem TakesLineEnd.append {ts us : Tokens} {A B C : Tokens → Prop} (hts : TakesLineEnd ts A)
    (hus : TakesLineEnd us B) (hA : ∀ ts', A ts' → C (ts' ++ us)) (hB : ∀ us', B us' → C (ts ++ us')) :
    TakesLineEnd (ts ++ us) C := by
  intro before rest pos h hrest
  rcases List.append_eq_append_iff.mp h with ⟨mid, rfl, hmid⟩ | ⟨mid, rfl, rfl⟩
  · rw [List.append_assoc]
    exact hB _ (hus mid rest pos hmid hrest)
  · by_cases hmid : mid = []
    · subst hmid
      rw [List.append_nil, List.nil_append] at *
      exact hB _ (hus [] us pos rfl hrest)
    · have hins := hA _ (hts before mid pos rfl hmid)
      rwa [List.append_assoc] at hins

theorem Spot.takesLineEnd (s : Spot true) (t : Token) :
    TakesLineEnd (s.tokens t) fun ts => ∃ s' : Spot true, s'.tokens t = ts ∧ s'.pos = s.pos := by
  intro before rest pos h hrest
  obtain ⟨rest, x, rfl⟩ := (List.eq_nil_or_concat rest).resolve_left hrest
  rw [List.concat_eq_append, Spot.tokens, ← List.append_assoc] at h
  obtain ⟨hgap, hx⟩ := List.append_inj' h rfl
  obtain ⟨gap, gap', hsplit, rfl, rfl⟩ := List.map_eq_append_iff.mp hgap
  refine ⟨⟨gap ++ pos :: gap', s.pos, by simp⟩, ?_, rfl⟩
  simp [Spot.tokens, lineEnds, ← hx]

theorem RefTree.takesLineEnd (r : RefTree true) :
    TakesLineEnd r.tokens fun ts => ∃ r' : RefTree true, r'.tokens = ts ∧ r'.reference = r.reference := by
  cases r with
  | plain spot name =>
    intro before rest pos h hrest
    obtain ⟨s, hs, hpos⟩ := spot.takesLineEnd _ before rest pos h hrest
    exact ⟨.plain s name, hs, by simp [reference, hpos]⟩
  | qualified spot package dot member name =>
    refine ((spot.takesLineEnd _).append (dot.takesLineEnd _)
      (C := fun ts => ∃ s d : Spot true, s.tokens (.word package) ++ d.tokens (.rune '.') = ts ∧ s.pos = spot.pos)
      ?_ ?_).append (member.takesLineEnd _) ?_ ?_
    · rintro _ ⟨s, rfl, hs⟩
      exact ⟨s, dot, rfl, hs⟩
    · rintro _ ⟨d, rfl, -⟩
      exact ⟨spot, d, rfl, rfl⟩
    · rintro _ ⟨s, d, rfl, hs⟩
      exact ⟨.qualified s package d member name, rfl, by simp [reference, hs]⟩
    · rintro _ ⟨m, rfl, -⟩
      exact ⟨.qualified spot package dot m name, rfl, rfl⟩

mutual

theorem ValueTree.takesLineEnd (v : ValueTree) :
    TakesLineEnd v.tokens fun ts => ∃ v' : ValueTree, v'.tokens = ts ∧ v'.expr = v.expr := by
  match v with
  | .ref name =>
    intro before rest pos h hrest
    obtain ⟨r, hr, href⟩ := name.takesLineEnd before rest pos h hrest
    exact ⟨.ref r, hr, by rw [ValueTree.expr, ValueTree.expr, href]⟩
  | .atom spot value =>
    intro before rest pos h hrest
    obtain ⟨s, hs, hpos⟩ := spot.takesLineEnd _ before rest pos h hrest
    exact ⟨.atom s value, hs, by rw [ValueTree.expr, ValueTree.expr, hpos]⟩
  | .negative minus number value =>
    refine (minus.takesLineEnd _).append (number.takesLineEnd _) ?_ ?_
    · rintro _ ⟨s, rfl, hs⟩
      exact ⟨.negative s number value, rfl, by rw [ValueTree.expr, ValueTree.expr, hs]⟩
    · rintro _ ⟨s, rfl, -⟩
      exact ⟨.negative minus s value, rfl, rfl⟩
  | .list opened items closed =>
    refine ((opened.takesLineEnd _).append (ItemsTree.takesLineEnd items)
      (C := fun ts => ∃ (o : Spot true) (xs : ItemsTree),
        o.tokens (.rune '\x7b') ++ xs.tokens = ts ∧ o.pos = opened.pos ∧ xs.items = items.items)
      ?_ ?_).append (closed.takesLineEnd _) ?_ ?_
    · rintro _ ⟨o, rfl, ho⟩
      exact ⟨o, items, rfl, ho, rfl⟩
    · rintro _ ⟨xs, rfl, hxs⟩
      exact ⟨opened, xs, rfl, rfl, hxs⟩
    · rintro _ ⟨o, xs, rfl, ho, hxs⟩
      exact ⟨.list o xs closed, rfl, by rw [ValueTree.expr, ValueTree.expr, ho, hxs]⟩
    · rintro _ ⟨c, rfl, -⟩
      exact ⟨.list opened items c, rfl, rfl⟩

theorem ItemTree.takesLineEnd (x : ItemTree) :
    TakesLineEnd x.tokens fun ts => ∃ x' : ItemTree, x'.tokens = ts ∧ x'.item = x.item := by
  match x with
  | .plain value =>
    intro before rest pos h hrest
    obtain ⟨v, hv, hexpr⟩ := ValueTree.takesLineEnd value before rest pos h hrest
    exact ⟨.plain v, hv, by rw [ItemTree.item, ItemTree.item, hexpr]⟩
  | .keyed key name colon value =>
    refine ((key.takesLineEnd _).append (colon.takesLineEnd _)
      (C := fun ts => ∃ k c : Spot true, k.tokens (.word name) ++ c.tokens (.rune ':') = ts ∧ k.pos = key.pos)
      ?_ ?_).append (ValueTree.takesLineEnd value) ?_ ?_
    · rintro _ ⟨k, rfl, hk⟩
      exact ⟨k, colon, rfl, hk⟩
    · rintro _ ⟨c, rfl, -⟩
      exact ⟨key, c, rfl, rfl⟩
    · rintro _ ⟨k, c, rfl, hk⟩
      exact ⟨.keyed k name c value, rfl, by rw [ItemTree.item, ItemTree.item, hk]⟩
    · rintro _ ⟨v, rfl, hv⟩
      exact ⟨.keyed key name colon v, rfl, by rw [ItemTree.item, ItemTree.item, hv]⟩

theorem ItemsTree.takesLineEnd (xs : ItemsTree) :
    TakesLineEnd xs.tokens fun ts => ∃ xs' : ItemsTree, xs'.tokens = ts ∧ xs'.items = xs.items := by
  match xs with
  | .none =>
    intro before rest pos h hrest
    exact absurd (List.append_eq_nil_iff.mp h.symm).2 hrest
  | .last item =>
    intro before rest pos h hrest
    obtain ⟨x, hx, hitem⟩ := ItemTree.takesLineEnd item before rest pos h hrest
    exact ⟨.last x, hx, by rw [ItemsTree.items, ItemsTree.items, hitem]⟩
  | .more item comma rest =>
    refine ((ItemTree.takesLineEnd item).append (comma.takesLineEnd _)
      (C := fun ts => ∃ (x : ItemTree) (c : Spot true), x.tokens ++ c.tokens (.rune ',') = ts ∧ x.item = item.item)
      ?_ ?_).append (ItemsTree.takesLineEnd rest) ?_ ?_
    · rintro _ ⟨x, rfl, hx⟩
      exact ⟨x, comma, rfl, hx⟩
    · rintro _ ⟨c, rfl, -⟩
      exact ⟨item, c, rfl, rfl⟩
    · rintro _ ⟨x, c, rfl, hx⟩
      exact ⟨.more x c rest, rfl, by rw [ItemsTree.items, ItemsTree.items, hx]⟩
    · rintro _ ⟨ys, rfl, hys⟩
      exact ⟨.more item comma ys, rfl, by rw [ItemsTree.items, ItemsTree.items, hys]⟩

end

variable {before rest : Tokens}

theorem ne_nil_of_open {ts : Tokens} (hts : openBrackets ts = 0) (h : ts = before ++ rest)
    (hopen : 0 < openBrackets before) : rest ≠ [] := by
  rintro rfl
  rw [h, List.append_nil] at hts
  omega

theorem ArgsTree.exists_lineEnd (a : ArgsTree) (h : a.tokens = before ++ rest) (hopen : 0 < openBrackets before)
    (pos : Position) :
    ∃ a' : ArgsTree, a'.tokens = before ++ (pos, .endOfLine) :: rest ∧ a'.items? = a.items? := by
  have hrest := ne_nil_of_open a.openBrackets_tokens h hopen
  cases a with
  | absent => exact absurd (List.append_eq_nil_iff.mp h.symm).2 hrest
  | given b opened items closed =>
    -- the opening bracket itself must stand in the line
    have hopened : opened.tokens (.rune b.opening) = [(opened.pos, .rune b.opening)] := by
      simp [Spot.tokens, opened.flat rfl, lineEnds]
    cases before with
    | nil => exact absurd hopen (Int.lt_irrefl 0)
    | cons x before =>
      simp only [tokens, hopened, List.cons_append, List.nil_append, List.cons.injEq] at h
      obtain ⟨rfl, hinner⟩ := h
      have htakes := items.takesLineEnd.append (closed.takesLineEnd (.rune b.closing))
        (C := fun ts => ∃ (xs : ItemsTree) (c : Spot true),
          xs.tokens ++ c.tokens (.rune b.closing) = ts ∧ xs.items = items.items)
        (by rintro _ ⟨xs, rfl, hxs⟩; exact ⟨xs, closed, rfl, hxs⟩)
        (by rintro _ ⟨c, rfl, -⟩; exact ⟨items, c, rfl, rfl⟩)
      obtain ⟨xs, c, htokens, hxs⟩ := htakes before rest pos hinner hrest
      refine ⟨.given b opened xs c, ?_, by rw [items?, items?, hxs]⟩
      rw [tokens, hopened, List.append_assoc, htokens]
      rfl

theorem MarkTree.exists_lineEnd (m : MarkTree) (h : m.tokens = before ++ rest) (hopen : 0 < openBrackets before)
    (pos : Position) :
    ∃ m' : MarkTree, m'.tokens = before ++ (pos, .endOfLine) :: rest ∧ m'.mark = m.mark := by
  obtain ⟨sign, type, args⟩ := m
  simp only [tokens] at h
  rcases List.append_eq_append_iff.mp h with ⟨mid, rfl, hmid⟩ | ⟨mid, hmid, -⟩
  · have htype : openBrackets ((sign, .rune '@') :: type.tokens) = 0 := by simp [Token.opens]
    rw [openBrackets_append, htype, Int.zero_add] at hopen
    obtain ⟨a, htokens, hitems⟩ := args.exists_lineEnd hmid hopen pos
    exact ⟨⟨sign, type, a⟩, by simp [tokens, htokens], by simp [mark, hitems]⟩
  · -- no bracket opens up to the end of the type
    have hnone : openBrackets before = 0 := by
      refine openBrackets_eq_zero fun x hx => ?_
      have hmem : x ∈ (sign, Token.rune '@') :: type.tokens := hmid ▸ List.mem_append_left mid hx
      rcases List.mem_cons.mp hmem with rfl | hmem
      · rfl
      · exact type.opens_eq_zero x hmem
    omega

/-- Where a bracket is open in a file, a line end more leaves its annotations as they are. -/
theorem FileTree.exists_lineEnd (f : FileTree) (h : f.tokens = before ++ rest) (hopen : 0 < openBrackets before)
    (pos : Position) :
    ∃ f' : FileTree, f'.tokens = before ++ (pos, .endOfLine) :: rest ∧ f'.marks = f.marks := by
  induction f generalizing before with
  | done =>
    rw [(List.append_eq_nil_iff.mp h.symm).1] at hopen
    exact absurd hopen (Int.lt_irrefl 0)
  | lineEnd p g ih =>
    cases before with
    | nil => exact absurd hopen (Int.lt_irrefl 0)
    | cons x before =>
      simp only [tokens, List.cons_append, List.cons.injEq] at h
      obtain ⟨rfl, h⟩ := h
      obtain ⟨g', htokens, hmarks⟩ := ih h (by simpa [Token.opens] using hopen)
      exact ⟨.lineEnd p g', by rw [tokens, htokens]; rfl, hmarks⟩
  | mark m p g ih =>
    rcases List.append_eq_append_iff.mp h with ⟨mid, rfl, hmid⟩ | ⟨mid, hmid, rfl⟩
    · rw [openBrackets_append, m.openBrackets_tokens, Int.zero_add] at hopen
      cases mid with
      | nil => exact absurd hopen (Int.lt_irrefl 0)
      | cons x mid =>
        simp only [List.cons_append, List.cons.injEq] at hmid
        obtain ⟨rfl, hmid⟩ := hmid
        obtain ⟨g', htokens, hmarks⟩ := ih hmid (by simpa [Token.opens] using hopen)
        refine ⟨.mark m p g', ?_, by rw [marks, marks, hmarks]⟩
        rw [tokens, htokens, List.append_assoc]
        rfl
    · obtain ⟨m', htokens, hmark⟩ := m.exists_lineEnd hmid hopen pos
      refine ⟨.mark m' p g, ?_, by rw [marks, marks, hmark]⟩
      rw [tokens, htokens, List.append_assoc]
      rfl
  | lastMark m =>
    obtain ⟨m', htokens, hmark⟩ := m.exists_lineEnd h hopen pos
    exact ⟨.lastMark m', htokens, by rw [marks, marks, hmark]⟩

end ServiceAnnotations.Mark
