import ServiceAnnotations.Proofs.Except
import ServiceAnnotations.Proofs.Mark.Grammar
import ServiceAnnotations.Proofs.Mark.Lexer

/-! # What is read has a tree -/
namespace ServiceAnnotations.Mark

def Lexeme.IsFinal (ending : Lexeme) : Prop := ∀ pos t, ending = .token pos t → t = .endOfInput

namespace Input

/-- The input has come to the given tokens. Within brackets it may have passed line ends before them. -/
def Stands (i : Input) (nested : Bool) (ending : Lexeme) (ts : Tokens) : Prop :=
  settled nested i.tokens = settled nested ts ∧ i.ending = ending

theorem stands_mk (nested : Bool) (ending : Lexeme) (ts : Tokens) :
    (Input.mk ts ending).Stands nested ending ts := ⟨rfl, rfl⟩

theorem stands_false_iff {i : Input} {ending : Lexeme} {ts : Tokens} :
    i.Stands false ending ts ↔ i = ⟨ts, ending⟩ := by
  obtain ⟨tokens, ending'⟩ := i
  simp [Stands]

variable {i i' : Input} {nested : Bool} {ending : Lexeme} {ts rest : Tokens} {t : Position × Token}

theorem next_eq (hi : i.Stands nested ending ts) :
    i.next nested = (do
      let t ← (Input.mk (settled nested ts) ending).peek
      return (t, Input.mk (settled nested ts) ending)) := by
  obtain ⟨htokens, rfl⟩ := hi
  rw [← htokens]
  cases nested <;> rfl

theorem peek_eq_ok (hfinal : ending.IsFinal) (h : (Input.mk ts ending).peek = .ok t) :
    t.2 = .endOfInput ∨ ∃ rest, ts = t :: rest := by
  cases ts with
  | cons p rest =>
    obtain rfl := Except.ok.inj h
    exact .inr ⟨rest, rfl⟩
  | nil =>
    cases ending with
    | token pos tok =>
      obtain rfl := Except.ok.inj h
      exact .inl (hfinal pos tok rfl)
    | failure pos e => cases h

/-- The next token is the next one that counts, unless the input has come to its end. -/
theorem next_eq_ok (hfinal : ending.IsFinal) (hi : i.Stands nested ending ts)
    (h : i.next nested = .ok (t, i')) :
    i'.Stands nested ending ts ∧ (t.2 = .endOfInput ∨ ∃ (s : Spot nested) (rest : Tokens),
      s.pos = t.1 ∧ ts = s.tokens t.2 ++ rest ∧ i'.behind = ⟨rest, ending⟩) := by
  rw [next_eq hi] at h
  obtain ⟨u, hpeek, hpure⟩ := bind_eq_ok_iff.mp h
  obtain ⟨rfl, rfl⟩ := Prod.mk.inj (Except.ok.inj hpure)
  refine ⟨⟨settled_settled .., rfl⟩, ?_⟩
  rcases peek_eq_ok hfinal hpeek with hend | ⟨rest, hrest⟩
  · exact .inl hend
  · obtain ⟨s, hpos, hts⟩ := exists_spot_of_settled hrest
    exact .inr ⟨s, rest, hpos, hts, by simp [behind, hrest]⟩

/-- A token that stands ahead is the next one. -/
theorem upcoming_of_next (hi : i.Stands nested ending ts) (h : i.next nested = .ok (t, i')) {u : Token}
    (hu : upcoming nested ts = some u) : t.2 = u := by
  rw [next_eq hi] at h
  rw [upcoming] at hu
  cases hts : settled nested ts with
  | nil =>
    rw [hts] at hu
    cases hu
  | cons p rest =>
    rw [hts] at h hu
    obtain ⟨rfl, -⟩ := Prod.mk.inj (Except.ok.inj h)
    exact Option.some.inj hu

end Input

section
variable {i i' : Input} {nested : Bool} {ending : Lexeme} {ts : Tokens} (hfinal : ending.IsFinal)
include hfinal

theorem parseWord_sound {pos : Position} {name : String} (hi : i.Stands nested ending ts)
    (h : parseWord nested i = .ok ((pos, name), i')) :
    ∃ (s : Spot nested) (rest : Tokens), s.pos = pos ∧ ts = s.tokens (.word name) ++ rest ∧
      i' = ⟨rest, ending⟩ := by
  obtain ⟨⟨t, i₁⟩, hnext, h⟩ := bind_eq_ok_iff.mp h
  obtain ⟨-, hspot⟩ := Input.next_eq_ok hfinal hi hnext
  simp only at h
  split at h
  · rename_i name' ht
    obtain ⟨⟨rfl, rfl⟩, rfl⟩ : (t.1 = pos ∧ name' = name) ∧ i₁.behind = i' := by
      simpa [pure, Except.pure] using h
    rw [ht] at hspot
    obtain ⟨s, rest, hpos, hts, hbehind⟩ := hspot.resolve_left (by simp)
    exact ⟨s, rest, hpos, hts, hbehind⟩
  · cases h

theorem parseReference_sound {r : Reference} (hi : i.Stands nested ending ts)
    (h : parseReference nested i = .ok (r, i')) :
    ∃ (tree : RefTree nested) (rest : Tokens), tree.reference = r ∧ ts = tree.tokens ++ rest ∧
      tree.StopsBefore rest ∧ i'.Stands nested ending rest := by
  obtain ⟨⟨⟨pos, name⟩, i₁⟩, hword, h₁⟩ := bind_eq_ok_iff.mp h
  obtain ⟨s, rest, rfl, rfl, rfl⟩ := parseWord_sound hfinal hi hword
  obtain ⟨⟨t, i₂⟩, hnext, h₂⟩ := bind_eq_ok_iff.mp h₁
  obtain ⟨hi₂, hspot⟩ := Input.next_eq_ok hfinal (Input.stands_mk ..) hnext
  simp only at h₂
  split at h₂
  · rename_i ht
    rw [ht] at hspot
    obtain ⟨dot, rest₂, -, hts, hbehind⟩ := hspot.resolve_left (by simp)
    obtain ⟨⟨⟨_, member⟩, i₃⟩, hword₃, h₃⟩ := bind_eq_ok_iff.mp h₂
    rw [hbehind] at hword₃
    obtain ⟨s₃, rest₃, -, rfl, rfl⟩ := parseWord_sound hfinal (Input.stands_mk ..) hword₃
    obtain ⟨rfl, rfl⟩ := Prod.mk.inj (Except.ok.inj h₃)
    exact ⟨.qualified s name dot s₃ member, rest₃, rfl, by simp [RefTree.tokens, hts], trivial, Input.stands_mk ..⟩
  · rename_i ht
    obtain ⟨rfl, rfl⟩ := Prod.mk.inj (Except.ok.inj h₂)
    have hstops : (RefTree.plain s name).StopsBefore rest :=
      fun hdot => ht (Input.upcoming_of_next (Input.stands_mk ..) hnext hdot)
    exact ⟨.plain s name, rest, rfl, rfl, hstops, hi₂⟩

end

def ValueSound (ending : Lexeme) (fuel : Nat) : Prop :=
  ∀ {i i' : Input} {ts : Tokens} {e : Expr}, i.Stands true ending ts → parseValue fuel i = .ok (e, i') →
    ∃ (v : ValueTree) (rest : Tokens), v.expr = e ∧ ts = v.tokens ++ rest ∧ v.StopsBefore rest ∧
      i'.Stands true ending rest

def ItemSound (ending : Lexeme) (fuel : Nat) : Prop :=
  ∀ {i i' : Input} {ts : Tokens} {x : Item}, i.Stands true ending ts → parseItem fuel i = .ok (x, i') →
    ∃ (tree : ItemTree) (rest : Tokens), tree.item = x ∧ ts = tree.tokens ++ rest ∧ tree.StopsBefore rest ∧
      i'.Stands true ending rest

def ItemsSound (ending : Lexeme) (fuel : Nat) : Prop :=
  ∀ {close : Char} {i i' : Input} {ts : Tokens} {xs : List Item}, i.Stands true ending ts →
    parseItems close fuel i = .ok (xs, i') →
    ∃ (tree : ItemsTree) (closed : Spot true) (rest : Tokens), tree.items = xs ∧
      ts = tree.tokens ++ closed.tokens (.rune close) ++ rest ∧ i' = ⟨rest, ending⟩

private theorem fuelless_ne_ok {α : Type} {i : Input} {w : Wanted} {x : α} :
    (do let (t, _) ← i.next true; unexpected t w : Except ParseError α) ≠ .ok x := by
  intro h
  obtain ⟨_, -, h⟩ := bind_eq_ok_iff.mp h
  cases h

/-- Only an unqualified name stands for an unqualified reference. -/
theorem eq_plain_of_expr {v : ValueTree} {name : String} {pos : Position}
    (h : v.expr = .ref ⟨none, name, pos⟩) : ∃ s : Spot true, v = .ref (.plain s name) ∧ s.pos = pos := by
  cases v with
  | ref r =>
    cases r with
    | plain s n =>
      obtain ⟨rfl, rfl⟩ : n = name ∧ s.pos = pos := by simpa [ValueTree.expr, RefTree.reference] using h
      exact ⟨s, rfl, rfl⟩
    | qualified => simp [ValueTree.expr, RefTree.reference] at h
  | _ => simp [ValueTree.expr] at h

section
variable {ending : Lexeme} (hfinal : ending.IsFinal) {fuel : Nat}
include hfinal

theorem valueSound_succ (hitems : ItemsSound ending fuel) : ValueSound ending (fuel + 1) := by
  intro i i' ts e hi h
  rw [parseValue] at h
  obtain ⟨⟨t, i₁⟩, hnext, h₁⟩ := bind_eq_ok_iff.mp h
  obtain ⟨hi₁, hspot⟩ := Input.next_eq_ok hfinal hi hnext
  -- A token that is a value by itself.
  have hatom : ∀ (a : Atom), t.2 = a.token → e = .literal a.constant t.1 → i' = i₁.behind →
      ∃ (v : ValueTree) (rest : Tokens), v.expr = e ∧ ts = v.tokens ++ rest ∧ v.StopsBefore rest ∧
        i'.Stands true ending rest := by
    rintro a ht rfl rfl
    obtain ⟨s, rest, hpos, hts, hbehind⟩ := hspot.resolve_left (by cases a <;> simp [ht, Atom.token])
    refine ⟨.atom s a, rest, by rw [ValueTree.expr, hpos], by rw [ValueTree.tokens, ← ht, hts], trivial, ?_⟩
    exact hbehind ▸ Input.stands_mk ..
  simp only at h₁
  split at h₁
  · obtain ⟨⟨r, i₂⟩, href, h₂⟩ := bind_eq_ok_iff.mp h₁
    obtain ⟨rfl, rfl⟩ := Prod.mk.inj (Except.ok.inj h₂)
    obtain ⟨tree, rest, rfl, hts, hstops, hi₂⟩ := parseReference_sound hfinal hi₁ href
    exact ⟨.ref tree, rest, rfl, hts, hstops, hi₂⟩
  · rename_i v ht
    obtain ⟨rfl, rfl⟩ := Prod.mk.inj (Except.ok.inj h₁)
    exact hatom (.text (some v)) ht rfl rfl
  · rename_i ht
    obtain ⟨rfl, rfl⟩ := Prod.mk.inj (Except.ok.inj h₁)
    exact hatom (.text none) ht rfl rfl
  · rename_i v ht
    obtain ⟨rfl, rfl⟩ := Prod.mk.inj (Except.ok.inj h₁)
    exact hatom (.rawText v) ht rfl rfl
  · rename_i n ht
    obtain ⟨rfl, rfl⟩ := Prod.mk.inj (Except.ok.inj h₁)
    exact hatom (.int n) ht rfl rfl
  · rename_i ht
    obtain ⟨rfl, rfl⟩ := Prod.mk.inj (Except.ok.inj h₁)
    exact hatom .yes ht rfl rfl
  · rename_i ht
    obtain ⟨rfl, rfl⟩ := Prod.mk.inj (Except.ok.inj h₁)
    exact hatom .no ht rfl rfl
  · rename_i ht
    rw [ht] at hspot
    obtain ⟨minus, rest, hpos, hts, hbehind⟩ := hspot.resolve_left (by simp)
    obtain ⟨⟨u, i₂⟩, hnext₂, h₂⟩ := bind_eq_ok_iff.mp h₁
    rw [hbehind] at hnext₂
    obtain ⟨-, hspot₂⟩ := Input.next_eq_ok hfinal (Input.stands_mk ..) hnext₂
    simp only at h₂
    split at h₂
    · rename_i n hu
      obtain ⟨rfl, rfl⟩ := Prod.mk.inj (Except.ok.inj h₂)
      rw [hu] at hspot₂
      obtain ⟨s, rest₂, -, rfl, hbehind₂⟩ := hspot₂.resolve_left (by simp)
      refine ⟨.negative minus s n, rest₂, by rw [ValueTree.expr, hpos], ?_, trivial, hbehind₂ ▸ Input.stands_mk ..⟩
      rw [hts, ValueTree.tokens, List.append_assoc]
    · cases h₂
  · rename_i ht
    rw [ht] at hspot
    obtain ⟨opened, rest, hpos, hts, hbehind⟩ := hspot.resolve_left (by simp)
    obtain ⟨⟨xs, i₂⟩, hxs, h₂⟩ := bind_eq_ok_iff.mp h₁
    obtain ⟨rfl, rfl⟩ := Prod.mk.inj (Except.ok.inj h₂)
    rw [hbehind] at hxs
    obtain ⟨tree, closed, rest₂, rfl, rfl, rfl⟩ := hitems (Input.stands_mk ..) hxs
    refine ⟨.list opened tree closed, rest₂, by rw [ValueTree.expr, hpos], ?_, trivial, Input.stands_mk ..⟩
    rw [hts, ValueTree.tokens, List.append_assoc, List.append_assoc, List.append_assoc]
  · cases h₁

theorem itemSound_succ (hvalue : ValueSound ending fuel) : ItemSound ending (fuel + 1) := by
  intro i i' ts x hi h
  rw [parseItem] at h
  obtain ⟨⟨e, i₁⟩, hv, h₁⟩ := bind_eq_ok_iff.mp h
  obtain ⟨v, rest, rfl, rfl, hstops, hi₁⟩ := hvalue hi hv
  simp only at h₁
  split at h₁
  · rename_i name pos hexpr
    obtain ⟨⟨t, i₂⟩, hnext, h₂⟩ := bind_eq_ok_iff.mp h₁
    obtain ⟨hi₂, hspot⟩ := Input.next_eq_ok hfinal hi₁ hnext
    simp only at h₂
    split at h₂
    · rename_i ht
      rw [ht] at hspot
      obtain ⟨colon, rest₂, -, rfl, hbehind⟩ := hspot.resolve_left (by simp)
      obtain ⟨⟨e', i₃⟩, hv', h₃⟩ := bind_eq_ok_iff.mp h₂
      obtain ⟨rfl, rfl⟩ := Prod.mk.inj (Except.ok.inj h₃)
      rw [hbehind] at hv'
      obtain ⟨v', rest₃, rfl, rfl, hstops', hi₃⟩ := hvalue (Input.stands_mk ..) hv'
      obtain ⟨key, rfl, rfl⟩ := eq_plain_of_expr hexpr
      refine ⟨.keyed key name colon v', rest₃, rfl, ?_, hstops', hi₃⟩
      simp [ItemTree.tokens, ValueTree.tokens, RefTree.tokens]
    · rename_i ht
      obtain ⟨rfl, rfl⟩ := Prod.mk.inj (Except.ok.inj h₂)
      have hcolon : upcoming true rest ≠ some (.rune ':') := fun h => ht (Input.upcoming_of_next hi₁ hnext h)
      exact ⟨.plain v, rest, rfl, rfl, ⟨hstops, fun _ _ _ => hcolon⟩, hi₂⟩
  · rename_i hname
    obtain ⟨rfl, rfl⟩ := Prod.mk.inj (Except.ok.inj h₁)
    refine ⟨.plain v, rest, rfl, rfl, ⟨hstops, ?_⟩, hi₁⟩
    rintro spot name rfl
    exact absurd rfl (hname name spot.pos)

theorem itemsSound_succ (hitem : ItemSound ending fuel) (hitems : ItemsSound ending fuel) :
    ItemsSound ending (fuel + 1) := by
  intro close i i' ts xs hi h
  rw [parseItems] at h
  obtain ⟨⟨t, i₁⟩, hnext, h₁⟩ := bind_eq_ok_iff.mp h
  obtain ⟨hi₁, hspot⟩ := Input.next_eq_ok hfinal hi hnext
  simp only at h₁
  split at h₁
  · rename_i ht
    obtain ⟨rfl, rfl⟩ := Prod.mk.inj (Except.ok.inj h₁)
    rw [ht] at hspot
    obtain ⟨closed, rest, -, rfl, hbehind⟩ := hspot.resolve_left (by simp)
    exact ⟨.none, closed, rest, rfl, rfl, hbehind⟩
  · obtain ⟨⟨x, i₂⟩, hx, h₂⟩ := bind_eq_ok_iff.mp h₁
    obtain ⟨tree, rest, rfl, rfl, -, hi₂⟩ := hitem hi₁ hx
    obtain ⟨⟨u, i₃⟩, hnext₃, h₃⟩ := bind_eq_ok_iff.mp h₂
    obtain ⟨-, hspot₃⟩ := Input.next_eq_ok hfinal hi₂ hnext₃
    simp only at h₃
    split at h₃
    · rename_i hu
      rw [hu] at hspot₃
      obtain ⟨comma, rest₃, -, rfl, hbehind⟩ := hspot₃.resolve_left (by simp)
      obtain ⟨⟨ys, i₄⟩, hys, h₄⟩ := bind_eq_ok_iff.mp h₃
      obtain ⟨rfl, rfl⟩ := Prod.mk.inj (Except.ok.inj h₄)
      rw [hbehind] at hys
      obtain ⟨trees, closed, rest₄, rfl, rfl, rfl⟩ := hitems (Input.stands_mk ..) hys
      exact ⟨.more tree comma trees, closed, rest₄, rfl, by simp [ItemsTree.tokens], rfl⟩
    · split at h₃
      · rename_i hu
        obtain ⟨rfl, rfl⟩ := Prod.mk.inj (Except.ok.inj h₃)
        rw [hu] at hspot₃
        obtain ⟨closed, rest₃, -, rfl, hbehind⟩ := hspot₃.resolve_left (by simp)
        exact ⟨.last tree, closed, rest₃, rfl, by simp [ItemsTree.tokens], hbehind⟩
      · cases h₃

/-- Whatever is read within brackets has a tree. -/
theorem nested_sound (fuel : Nat) :
    ValueSound ending fuel ∧ ItemSound ending fuel ∧ ItemsSound ending fuel := by
  induction fuel with
  | zero =>
    refine ⟨fun _ h => ?_, fun _ h => ?_, fun _ h => ?_⟩
    · rw [parseValue] at h
      exact absurd h fuelless_ne_ok
    · rw [parseItem] at h
      exact absurd h fuelless_ne_ok
    · rw [parseItems] at h
      exact absurd h fuelless_ne_ok
  | succ fuel ih =>
    obtain ⟨hvalue, hitem, hitems⟩ := ih
    exact ⟨valueSound_succ hfinal hitems, itemSound_succ hfinal hvalue, itemsSound_succ hfinal hitem hitems⟩

theorem parseArgs_sound {ts : Tokens} {args : Option (List Item)} {i' : Input}
    (h : parseArgs fuel ⟨ts, ending⟩ = .ok (args, i')) :
    ∃ (tree : ArgsTree) (rest : Tokens), tree.items? = args ∧ ts = tree.tokens ++ rest ∧
      tree.StopsBefore rest ∧ i' = ⟨rest, ending⟩ := by
  have hitems : ItemsSound ending fuel := (nested_sound hfinal fuel).2.2
  obtain ⟨t, hpeek, h₁⟩ := bind_eq_ok_iff.mp h
  have hgiven : ∀ b : Bracket, t.2 = .rune b.opening →
      (do let read ← parseItems b.closing fuel (Input.mk ts ending).behind
          return (some read.1, read.2)) = (.ok (args, i') : Except ParseError _) →
      ∃ (tree : ArgsTree) (rest : Tokens), tree.items? = args ∧ ts = tree.tokens ++ rest ∧
        tree.StopsBefore rest ∧ i' = ⟨rest, ending⟩ := by
    intro b ht h₁
    obtain ⟨rest, rfl⟩ := (Input.peek_eq_ok hfinal hpeek).resolve_left (by simp [ht])
    obtain ⟨⟨xs, i₂⟩, hxs, h₂⟩ := bind_eq_ok_iff.mp h₁
    obtain ⟨rfl, rfl⟩ := Prod.mk.inj (Except.ok.inj h₂)
    obtain ⟨tree, closed, rest₂, rfl, hrest, rfl⟩ := hitems (Input.stands_mk ..) hxs
    refine ⟨.given b ⟨[], t.1, fun _ => rfl⟩ tree closed, rest₂, rfl, ?_, trivial, rfl⟩
    obtain rfl : rest = tree.tokens ++ closed.tokens (.rune b.closing) ++ rest₂ := hrest
    simp [ArgsTree.tokens, Spot.tokens, lineEnds, ← ht]
  simp only at h₁
  split at h₁
  · exact hgiven .paren ‹_› h₁
  · exact hgiven .brace ‹_› h₁
  · rename_i hparen hbrace
    obtain ⟨rfl, rfl⟩ := Prod.mk.inj (Except.ok.inj h₁)
    refine ⟨.absent, ts, rfl, rfl, fun b hb => ?_, rfl⟩
    have hnext : (Input.mk ts ending).next false = .ok (t, ⟨ts, ending⟩) := by
      rw [Input.next_eq (Input.stands_mk ..), settled_false, hpeek]
      rfl
    have ht := Input.upcoming_of_next (Input.stands_mk ..) hnext hb
    cases b with
    | paren => exact hparen ht
    | brace => exact hbrace ht

/-- An annotation is read together with the end of its line, unless the input ends there. -/
theorem parseMark_sound {pos : Position} {ts : Tokens} {mark : Mark} {i' : Input}
    (hts : ∀ t ∈ ts, t.2 ≠ .endOfInput)
    (h : parseMark fuel pos ⟨(pos, .rune '@') :: ts, ending⟩ = .ok (mark, i')) :
    ∃ m : MarkTree, m.mark = mark ∧
      ((pos, .rune '@') :: ts = m.tokens ∧ i' = ⟨[], ending⟩ ∨
        ∃ (p : Position) (rest : Tokens), (pos, .rune '@') :: ts = m.tokens ++ (p, .endOfLine) :: rest ∧
          i' = ⟨rest, ending⟩) := by
  obtain ⟨⟨type, i₁⟩, htype, h₁⟩ := bind_eq_ok_iff.mp h
  obtain ⟨tree, rest, rfl, rfl, -, hi₁⟩ := parseReference_sound hfinal (Input.stands_mk ..) htype
  obtain rfl := Input.stands_false_iff.mp hi₁
  obtain ⟨⟨args, i₂⟩, hargs, h₂⟩ := bind_eq_ok_iff.mp h₁
  obtain ⟨args, rest₂, rfl, rfl, -, rfl⟩ := parseArgs_sound hfinal hargs
  obtain ⟨t, hpeek, h₃⟩ := bind_eq_ok_iff.mp h₂
  have hend := Input.peek_eq_ok hfinal hpeek
  split at h₃
  · rename_i ht
    obtain ⟨rfl, rfl⟩ := Prod.mk.inj (Except.ok.inj h₃)
    obtain ⟨rest₃, rfl⟩ := hend.resolve_left (by simp [ht])
    exact ⟨⟨pos, tree, args⟩, rfl, .inr ⟨t.1, rest₃, by simp [MarkTree.tokens, ← ht], rfl⟩⟩
  · rename_i ht
    obtain ⟨rfl, rfl⟩ := Prod.mk.inj (Except.ok.inj h₃)
    obtain rfl : rest₂ = [] := by
      cases rest₂ with
      | nil => rfl
      | cons p rest₃ =>
        obtain rfl := Except.ok.inj hpeek
        exact absurd ht (hts p (by simp))
    exact ⟨⟨pos, tree, args⟩, rfl, .inl ⟨by simp [MarkTree.tokens], rfl⟩⟩
  · cases h₃

theorem parseMarks_sound {fuel : Nat} {ts : Tokens} {marks : List Mark}
    (hts : ∀ t ∈ ts, t.2 ≠ .endOfInput) (hfuel : ts.length < fuel)
    (h : parseMarks fuel ⟨ts, ending⟩ = .ok marks) :
    ∃ f : FileTree, f.tokens = ts ∧ f.marks = marks ∧ ∃ pos, ending = .token pos .endOfInput := by
  induction fuel generalizing ts marks with
  | zero => omega
  | succ fuel ih =>
    obtain ⟨t, hpeek, h₁⟩ := bind_eq_ok_iff.mp h
    have hend := Input.peek_eq_ok hfinal hpeek
    simp only at h₁
    split at h₁
    · rename_i ht
      obtain rfl := Except.ok.inj h₁
      cases ts with
      | cons p rest =>
        obtain rfl := Except.ok.inj hpeek
        exact absurd ht (hts p (by simp))
      | nil =>
        cases ending with
        | failure pos e => cases hpeek
        | token pos tok =>
          obtain rfl := Except.ok.inj hpeek
          exact ⟨.done, rfl, rfl, pos, by rw [← ht]⟩
    · rename_i ht
      obtain ⟨rest, rfl⟩ := hend.resolve_left (by simp [ht])
      obtain ⟨f, rfl, rfl, hpos⟩ := ih (fun u hu => hts u (List.mem_cons_of_mem _ hu))
        (by simpa using hfuel) h₁
      exact ⟨.lineEnd t.1 f, by simp [FileTree.tokens, ← ht], rfl, hpos⟩
    · rename_i ht
      obtain ⟨rest, rfl⟩ := hend.resolve_left (by simp [ht])
      obtain ⟨⟨mark, i₂⟩, hmark, h₂⟩ := bind_eq_ok_iff.mp h₁
      obtain ⟨marks', hmarks, h₃⟩ := bind_eq_ok_iff.mp h₂
      obtain rfl := Except.ok.inj h₃
      obtain ⟨pos, tok⟩ := t
      obtain rfl : tok = .rune '@' := ht
      obtain ⟨m, rfl, ⟨htokens, rfl⟩ | ⟨p, rest₂, htokens, rfl⟩⟩ :=
        parseMark_sound hfinal (fun u hu => hts u (List.mem_cons_of_mem _ hu)) hmark
      · have hfuel₂ : ([] : Tokens).length < fuel := Nat.zero_lt_of_lt (Nat.lt_of_succ_lt_succ hfuel)
        obtain ⟨f, hf, rfl, hpos⟩ := ih (by simp) hfuel₂ hmarks
        obtain rfl : f = .done := FileTree.tokens_injective hf
        exact ⟨.lastMark m, htokens.symm, rfl, hpos⟩
      · have hlength := congrArg List.length htokens
        simp only [List.length_cons, List.length_append] at hlength hfuel
        obtain ⟨f, rfl, rfl, hpos⟩ := ih (fun u hu => hts u (by simp [htokens, hu])) (by omega) hmarks
        exact ⟨.mark m p f, htokens.symm, rfl, hpos⟩
    · cases h₁

end

end ServiceAnnotations.Mark
