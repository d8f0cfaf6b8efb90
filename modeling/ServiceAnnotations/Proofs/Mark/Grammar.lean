import Mathlib.Data.List.DropRight
import ServiceAnnotations.Mark.Parser

/-! # The grammar of annotations

Syntax trees are the derivations of the grammar. A tree knows the tokens it is made of and the
annotations it stands for. -/
namespace ServiceAnnotations.Mark

/-- Tokens and their places. -/
abbrev Tokens := List (Position × Token)

def lineEnds (gap : List Position) : Tokens := gap.map (·, .endOfLine)

/-- Where a token stands. Within brackets there may be line ends before it. -/
@[ext] structure Spot (nested : Bool) where
  gap : List Position
  pos : Position
  flat : nested = false → gap = []

def Spot.tokens {nested : Bool} (s : Spot nested) (t : Token) : Tokens := lineEnds s.gap ++ [(s.pos, t)]

/-- `ref := ident ['.' ident]` -/
inductive RefTree (nested : Bool)
  | plain (spot : Spot nested) (name : String)
  | qualified (spot : Spot nested) (package : String) (dot member : Spot nested) (name : String)

inductive Atom
  | text (value : Option Bytes)
  | rawText (value : Bytes)
  | int (value : Nat)
  | yes
  | no

def Atom.token : Atom → Token
  | text value => .text value
  | rawText value => .rawText value
  | int value => .int value
  | yes => .yes
  | no => .no

def Atom.constant : Atom → Constant
  | text (some value) => .text value
  | text none => .unknown
  | rawText value => .text value
  | int value => .int value
  | yes => .bool true
  | no => .bool false

mutual

/-- `value := ref | literal | '-' int | '{' args '}'` -/
inductive ValueTree
  | ref (name : RefTree true)
  | atom (spot : Spot true) (value : Atom)
  | negative (minus number : Spot true) (value : Nat)
  | list (opened : Spot true) (items : ItemsTree) (closed : Spot true)

/-- `elem := [ident ':'] value` -/
inductive ItemTree
  | plain (value : ValueTree)
  | keyed (key : Spot true) (name : String) (colon : Spot true) (value : ValueTree)

/-- `args := [elem {',' elem} [',']]`, which is nothing, an `elem`, or an `elem`, a comma and `args`. -/
inductive ItemsTree
  | none
  | last (item : ItemTree)
  | more (item : ItemTree) (comma : Spot true) (rest : ItemsTree)

end

inductive Bracket | paren | brace
  deriving DecidableEq

def Bracket.opening : Bracket → Char
  | paren => '('
  | brace => '\x7b'

def Bracket.closing : Bracket → Char
  | paren => ')'
  | brace => '\x7d'

theorem Bracket.opening_injective {b b' : Bracket} (h : b.opening = b'.opening) : b = b' := by
  cases b <;> cases b' <;> simp_all [opening]

inductive ArgsTree
  | absent
  | given (bracket : Bracket) (opened : Spot false) (items : ItemsTree) (closed : Spot true)

/-- `annotation := '@' ref ['(' args ')' | '{' args '}']` -/
structure MarkTree where
  sign : Position
  type : RefTree false
  args : ArgsTree

/-- `file := {EOL} {annotation EOL {EOL}} [annotation]`, followed by the end of the input. -/
inductive FileTree
  | done
  | lineEnd (pos : Position) (rest : FileTree)
  | mark (mark : MarkTree) (lineEnd : Position) (rest : FileTree)
  | lastMark (mark : MarkTree)

def RefTree.tokens {nested : Bool} : RefTree nested → Tokens
  | plain spot name => spot.tokens (.word name)
  | qualified spot package dot member name =>
    spot.tokens (.word package) ++ dot.tokens (.rune '.') ++ member.tokens (.word name)

mutual

def ValueTree.tokens : ValueTree → Tokens
  | .ref name => name.tokens
  | .atom spot value => spot.tokens value.token
  | .negative minus number value => minus.tokens (.rune '-') ++ number.tokens (.int value)
  | .list opened items closed =>
    opened.tokens (.rune '\x7b') ++ items.tokens ++ closed.tokens (.rune '\x7d')

def ItemTree.tokens : ItemTree → Tokens
  | .plain value => value.tokens
  | .keyed key name colon value => key.tokens (.word name) ++ colon.tokens (.rune ':') ++ value.tokens

def ItemsTree.tokens : ItemsTree → Tokens
  | .none => []
  | .last item => item.tokens
  | .more item comma rest => item.tokens ++ comma.tokens (.rune ',') ++ rest.tokens

end

def ArgsTree.tokens : ArgsTree → Tokens
  | absent => []
  | given bracket opened items closed =>
    opened.tokens (.rune bracket.opening) ++ items.tokens ++ closed.tokens (.rune bracket.closing)

def MarkTree.tokens (m : MarkTree) : Tokens := (m.sign, .rune '@') :: m.type.tokens ++ m.args.tokens

def FileTree.tokens : FileTree → Tokens
  | done => []
  | lineEnd pos rest => (pos, .endOfLine) :: rest.tokens
  | mark m pos rest => m.tokens ++ (pos, .endOfLine) :: rest.tokens
  | lastMark m => m.tokens

def RefTree.reference {nested : Bool} : RefTree nested → Reference
  | plain spot name => ⟨none, name, spot.pos⟩
  | qualified spot package _ _ name => ⟨some package, name, spot.pos⟩

mutual

def ValueTree.expr : ValueTree → Expr
  | .ref name => .ref name.reference
  | .atom spot value => .literal value.constant spot.pos
  | .negative minus _ value => .literal (.int (-value)) minus.pos
  | .list opened items _ => .list items.items opened.pos

def ItemTree.item : ItemTree → Item
  | .plain value => .mk none value.expr
  | .keyed key name _ value => .mk (some ⟨none, name, key.pos⟩) value.expr

def ItemsTree.items : ItemsTree → List Item
  | .none => []
  | .last item => [item.item]
  | .more item _ rest => item.item :: rest.items

end

def ArgsTree.items? : ArgsTree → Option (List Item)
  | absent => none
  | given _ _ items _ => some items.items

def MarkTree.mark (m : MarkTree) : Mark := ⟨m.type.reference, m.args.items?, m.sign⟩

def FileTree.marks : FileTree → List Mark
  | done => []
  | lineEnd _ rest => rest.marks
  | mark m _ rest => m.mark :: rest.marks
  | lastMark m => [m.mark]

def settled (nested : Bool) (ts : Tokens) : Tokens :=
  if nested then ts.dropWhile (·.2 = .endOfLine) else ts

@[simp] theorem settled_false (ts : Tokens) : settled false ts = ts := rfl

theorem settled_lineEnds_append (gap : List Position) (ts : Tokens) :
    settled true (lineEnds gap ++ ts) = settled true ts := by
  induction gap with
  | nil => rfl
  | cons pos gap ih => exact ih

theorem settled_spot_append {nested : Bool} (s : Spot nested) {t : Token}
    (ht : nested = true → t ≠ .endOfLine) (rest : Tokens) :
    settled nested (s.tokens t ++ rest) = (s.pos, t) :: rest := by
  cases nested with
  | false => simp [Spot.tokens, s.flat rfl, lineEnds]
  | true =>
    rw [Spot.tokens, List.append_assoc, settled_lineEnds_append]
    simp [settled, ht rfl]

theorem settled_settled (nested : Bool) (ts : Tokens) : settled nested (settled nested ts) = settled nested ts := by
  cases nested with
  | false => rfl
  | true =>
    simp only [settled, if_true]
    exact List.dropWhile_idempotent _ _

/-- The next token that counts stands somewhere. -/
theorem exists_spot_of_settled {nested : Bool} {ts rest : Tokens} {p : Position × Token}
    (h : settled nested ts = p :: rest) : ∃ s : Spot nested, s.pos = p.1 ∧ ts = s.tokens p.2 ++ rest := by
  cases nested with
  | false => exact ⟨⟨[], p.1, fun _ => rfl⟩, rfl, h⟩
  | true =>
    induction ts with
    | nil => simp [settled] at h
    | cons q ts ih =>
      by_cases hq : q.2 = .endOfLine
      · obtain ⟨s, hpos, rfl⟩ := ih (by simpa [settled, hq] using h)
        refine ⟨⟨q.1 :: s.gap, s.pos, by simp⟩, hpos, ?_⟩
        simp [Spot.tokens, lineEnds, ← hq]
      · obtain ⟨rfl, rfl⟩ : q = p ∧ ts = rest := by simpa [settled, hq] using h
        exact ⟨⟨[], q.1, by simp⟩, rfl, rfl⟩

/-- A token and the line ends before it are known from where they stand. -/
theorem spot_append_inj {nested : Bool} {s s' : Spot nested} {t t' : Token} {rest rest' : Tokens}
    (ht : nested = true → t ≠ .endOfLine) (ht' : nested = true → t' ≠ .endOfLine)
    (h : s.tokens t ++ rest = s'.tokens t' ++ rest') : s = s' ∧ t = t' ∧ rest = rest' := by
  have hsettled : (s.pos, t) :: rest = (s'.pos, t') :: rest' := by
    rw [← settled_spot_append s ht, ← settled_spot_append s' ht', h]
  obtain ⟨hpair, rfl⟩ := List.cons.inj hsettled
  obtain ⟨hpos, rfl⟩ := Prod.mk.inj hpair
  have hgap : lineEnds s.gap = lineEnds s'.gap := by
    simpa [Spot.tokens, hpos] using h
  have hgap' := congrArg (List.map Prod.fst) hgap
  simp only [lineEnds, List.map_map, Function.comp_def, List.map_id'] at hgap'
  exact ⟨Spot.ext hgap' hpos, rfl, rfl⟩

/-- The place of the first token, apart from line ends. -/
def firstPlace (ts : Tokens) : Option Position := (settled true ts).head?.map Prod.fst

theorem firstPlace_spot_append {nested : Bool} (s : Spot nested) {t : Token} (ht : t ≠ .endOfLine)
    (rest : Tokens) : firstPlace (s.tokens t ++ rest) = some s.pos := by
  rw [firstPlace, Spot.tokens, List.append_assoc, settled_lineEnds_append]
  simp [settled, ht]

def upcoming (nested : Bool) (ts : Tokens) : Option Token := (settled nested ts).head?.map Prod.snd

theorem upcoming_spot_append {nested : Bool} (s : Spot nested) {t : Token}
    (ht : nested = true → t ≠ .endOfLine) (rest : Tokens) :
    upcoming nested (s.tokens t ++ rest) = some t := by
  rw [upcoming, settled_spot_append s ht]
  rfl

def Token.startsValue : Token → Bool
  | word _ | text _ | rawText _ | int _ | yes | no => true
  | rune c => c = '-' || c = '\x7b'
  | endOfLine | endOfInput => false

theorem Token.ne_endOfLine_of_startsValue {t : Token} (ht : t.startsValue = true) : t ≠ .endOfLine := by
  rintro rfl
  cases ht

@[simp] theorem Atom.token_ne_endOfLine (a : Atom) : a.token ≠ .endOfLine := by cases a <;> simp [token]

@[simp] theorem Atom.token_ne_word (a : Atom) (name : String) : a.token ≠ .word name := by
  cases a <;> simp [token]

@[simp] theorem Atom.token_ne_rune (a : Atom) (c : Char) : a.token ≠ .rune c := by
  cases a <;> simp [token]

theorem Atom.startsValue_token (a : Atom) : a.token.startsValue = true := by cases a <;> rfl

/-- The first word of a reference. -/
def RefTree.first {nested : Bool} : RefTree nested → String
  | plain _ name | qualified _ name _ _ _ => name

/-- A reference has the place of its first token. -/
theorem RefTree.exists_first {nested : Bool} (r : RefTree nested) :
    ∃ (s : Spot nested) (rest : Tokens),
      r.tokens = s.tokens (.word r.first) ++ rest ∧ s.pos = r.reference.pos := by
  cases r with
  | plain spot name => exact ⟨spot, [], (List.append_nil _).symm, rfl⟩
  | qualified spot package dot member name => exact ⟨spot, _, List.append_assoc .., rfl⟩

/-- The first token of a value, apart from line ends. -/
def ValueTree.first : ValueTree → Token
  | .ref name => .word name.first
  | .atom _ value => value.token
  | .negative _ _ _ => .rune '-'
  | .list _ _ _ => .rune '\x7b'

theorem ValueTree.startsValue_first (v : ValueTree) : v.first.startsValue = true := by
  cases v with
  | atom spot value => exact value.startsValue_token
  | _ => rfl

theorem ValueTree.first_ne_endOfLine (v : ValueTree) : v.first ≠ .endOfLine :=
  Token.ne_endOfLine_of_startsValue v.startsValue_first

/-- A value has the place of its first token. -/
theorem ValueTree.exists_first (v : ValueTree) :
    ∃ (s : Spot true) (rest : Tokens), v.tokens = s.tokens v.first ++ rest ∧ s.pos = v.expr.pos := by
  cases v with
  | ref name =>
    obtain ⟨s, rest, htokens, hpos⟩ := name.exists_first
    exact ⟨s, rest, by rw [tokens, htokens, first], hpos⟩
  | atom spot value => exact ⟨spot, [], by simp [tokens, first], rfl⟩
  | negative minus number value => exact ⟨minus, _, by rw [tokens, first], rfl⟩
  | list opened items closed => exact ⟨opened, _, by rw [tokens, List.append_assoc, first], rfl⟩

/-- An item has the place of its first token. -/
theorem ItemTree.exists_first (x : ItemTree) :
    ∃ (s : Spot true) (t : Token) (rest : Tokens),
      x.tokens = s.tokens t ++ rest ∧ s.pos = x.item.pos ∧ t.startsValue = true := by
  cases x with
  | plain value =>
    obtain ⟨s, rest, htokens, hpos⟩ := value.exists_first
    exact ⟨s, _, rest, by rw [tokens, htokens], hpos, value.startsValue_first⟩
  | keyed key name colon value => exact ⟨key, _, _, by rw [tokens, List.append_assoc], rfl, rfl⟩

theorem RefTree.firstPlace_tokens {nested : Bool} (r : RefTree nested) :
    firstPlace r.tokens = some r.reference.pos := by
  obtain ⟨s, rest, htokens, hpos⟩ := r.exists_first
  rw [htokens, firstPlace_spot_append s (by simp), hpos]

theorem ValueTree.firstPlace_tokens (v : ValueTree) : firstPlace v.tokens = some v.expr.pos := by
  obtain ⟨s, rest, htokens, hpos⟩ := v.exists_first
  rw [htokens, firstPlace_spot_append s v.first_ne_endOfLine, hpos]

theorem ItemTree.firstPlace_tokens (x : ItemTree) : firstPlace x.tokens = some x.item.pos := by
  obtain ⟨s, t, rest, htokens, hpos, ht⟩ := x.exists_first
  rw [htokens, firstPlace_spot_append s (Token.ne_endOfLine_of_startsValue ht), hpos]

theorem MarkTree.firstPlace_tokens (m : MarkTree) : firstPlace m.tokens = some m.mark.pos := rfl

/-- Whether a reference ends before `rest`: a dot would go on with it. -/
def RefTree.StopsBefore {nested : Bool} : RefTree nested → Tokens → Prop
  | plain _ _, rest => upcoming nested rest ≠ some (.rune '.')
  | qualified .., _ => True

def ValueTree.StopsBefore : ValueTree → Tokens → Prop
  | .ref name, rest => name.StopsBefore rest
  | .atom .., _ | .negative .., _ | .list .., _ => True

/-- Whether an item ends before `rest`. Before a colon, an unqualified name would be a key. -/
def ItemTree.StopsBefore : ItemTree → Tokens → Prop
  | .plain value, rest =>
    value.StopsBefore rest ∧ ∀ spot name, value = .ref (.plain spot name) → upcoming true rest ≠ some (.rune ':')
  | .keyed _ _ _ value, rest => value.StopsBefore rest

/-- Whether arguments end before `rest`: without any, a bracket would open some. -/
def ArgsTree.StopsBefore : ArgsTree → Tokens → Prop
  | absent, rest => ∀ b : Bracket, upcoming false rest ≠ some (.rune b.opening)
  | given .., _ => True

/-- Whether an annotation ends before `rest`, and its type does before the arguments. -/
def MarkTree.StopsBefore (m : MarkTree) (rest : Tokens) : Prop :=
  m.type.StopsBefore (m.args.tokens ++ rest) ∧ m.args.StopsBefore rest

section
variable {nested : Bool} {rest rest' : Tokens}

theorem RefTree.stopsBefore (r : RefTree nested) (hrest : upcoming nested rest ≠ some (.rune '.')) :
    r.StopsBefore rest := by
  cases r with
  | plain => exact hrest
  | qualified => trivial

theorem RefTree.StopsBefore.congr {r : RefTree nested} (h : r.StopsBefore rest)
    (hrest : upcoming nested rest' = upcoming nested rest) : r.StopsBefore rest' := by
  cases r with
  | plain =>
    rw [StopsBefore] at h ⊢
    rwa [hrest]
  | qualified => trivial

theorem ValueTree.stopsBefore (v : ValueTree) (hrest : upcoming true rest ≠ some (.rune '.')) :
    v.StopsBefore rest := by
  cases v with
  | ref r => exact r.stopsBefore hrest
  | _ => trivial

theorem ValueTree.StopsBefore.congr {v : ValueTree} (h : v.StopsBefore rest)
    (hrest : upcoming true rest' = upcoming true rest) : v.StopsBefore rest' := by
  cases v with
  | ref r => exact RefTree.StopsBefore.congr h hrest
  | _ => trivial

theorem ItemTree.StopsBefore.congr {x : ItemTree} (h : x.StopsBefore rest)
    (hrest : upcoming true rest' = upcoming true rest) : x.StopsBefore rest' := by
  cases x with
  | plain v => exact ⟨h.1.congr hrest, by simpa only [hrest] using h.2⟩
  | keyed key name colon v => exact ValueTree.StopsBefore.congr h hrest

end

theorem RefTree.append_inj {nested : Bool} {r r' : RefTree nested} {rest rest' : Tokens}
    (hrest : r.StopsBefore rest) (hrest' : r'.StopsBefore rest')
    (h : r.tokens ++ rest = r'.tokens ++ rest') : r = r' ∧ rest = rest' := by
  cases r with
  | plain s n =>
    cases r' with
    | plain s' n' =>
      obtain ⟨rfl, hn, rfl⟩ := spot_append_inj (by simp) (by simp) h
      exact ⟨by rw [Token.word.inj hn], rfl⟩
    | qualified s' p' d' m' n' =>
      simp only [tokens, List.append_assoc] at h
      obtain ⟨-, -, rfl⟩ := spot_append_inj (by simp) (by simp) h
      exact absurd (upcoming_spot_append d' (by simp) _) hrest
  | qualified s p d m n =>
    cases r' with
    | plain s' n' =>
      simp only [tokens, List.append_assoc] at h
      obtain ⟨-, -, rfl⟩ := spot_append_inj (by simp) (by simp) h
      exact absurd (upcoming_spot_append d (by simp) _) hrest'
    | qualified s' p' d' m' n' =>
      simp only [tokens, List.append_assoc] at h
      obtain ⟨rfl, hp, h⟩ := spot_append_inj (by simp) (by simp) h
      obtain ⟨rfl, -, h⟩ := spot_append_inj (by simp) (by simp) h
      obtain ⟨rfl, hn, rfl⟩ := spot_append_inj (by simp) (by simp) h
      exact ⟨by rw [Token.word.inj hp, Token.word.inj hn], rfl⟩

theorem Atom.token_injective {a a' : Atom} (h : a.token = a'.token) : a = a' := by
  cases a <;> cases a' <;> simp_all [token]

def Closes (ts : Tokens) : Prop := ∃ bracket : Bracket, upcoming true ts = some (.rune bracket.closing)

theorem closes_spot_append (bracket : Bracket) (s : Spot true) (rest : Tokens) :
    Closes (s.tokens (.rune bracket.closing) ++ rest) :=
  ⟨bracket, upcoming_spot_append s (by simp) rest⟩

def FollowsItem (ts : Tokens) : Prop :=
  upcoming true ts ≠ some (.rune '.') ∧ upcoming true ts ≠ some (.rune ':')

theorem Closes.followsItem {ts : Tokens} (h : Closes ts) : FollowsItem ts := by
  obtain ⟨b, hb⟩ := h
  cases b <;> simp [FollowsItem, hb, Bracket.closing]

theorem Closes.upcoming_ne_comma {ts : Tokens} (h : Closes ts) : upcoming true ts ≠ some (.rune ',') := by
  obtain ⟨b, hb⟩ := h
  cases b <;> simp [hb, Bracket.closing]

theorem FollowsItem.stopsBefore {ts : Tokens} (h : FollowsItem ts) (x : ItemTree) : x.StopsBefore ts := by
  cases x with
  | plain v => exact ⟨v.stopsBefore h.1, fun _ _ _ => h.2⟩
  | keyed key name colon v => exact v.stopsBefore h.1

theorem comma_followsItem (s : Spot true) (rest : Tokens) : FollowsItem (s.tokens (.rune ',') ++ rest) := by
  simp [FollowsItem, upcoming_spot_append]

theorem Closes.not_startsValue {ts : Tokens} (h : Closes ts) {t : Token} (ht : upcoming true ts = some t) :
    t.startsValue = false := by
  obtain ⟨b, hb⟩ := h
  obtain rfl := Option.some.inj (hb.symm.trans ht)
  cases b <;> rfl

theorem ItemTree.not_closes_append (x : ItemTree) (rest : Tokens) : ¬ Closes (x.tokens ++ rest) := by
  obtain ⟨s, t, more, htokens, -, ht⟩ := x.exists_first
  intro h
  have hnext := upcoming_spot_append s (fun _ => Token.ne_endOfLine_of_startsValue ht) (more ++ rest)
  rw [← List.append_assoc, ← htokens] at hnext
  exact absurd ht (by simp [h.not_startsValue hnext])

/-- Values whose tokens start the same list start with the same token. -/
theorem ValueTree.first_eq {v v' : ValueTree} {rest rest' : Tokens}
    (h : v.tokens ++ rest = v'.tokens ++ rest') : v.first = v'.first := by
  obtain ⟨s, more, hv, -⟩ := v.exists_first
  obtain ⟨s', more', hv', -⟩ := v'.exists_first
  rw [hv, hv', List.append_assoc, List.append_assoc] at h
  exact (spot_append_inj (fun _ => v.first_ne_endOfLine) (fun _ => v'.first_ne_endOfLine) h).2.1

/-- A value is no key. -/
theorem ValueTree.append_ne_key {v : ValueTree} {key colon : Spot true} {name : String} {rest rest' : Tokens}
    (hrest : (ItemTree.plain v).StopsBefore rest) :
    v.tokens ++ rest ≠ key.tokens (.word name) ++ (colon.tokens (.rune ':') ++ rest') := by
  intro h
  have hkey : upcoming true (colon.tokens (.rune ':') ++ rest') ≠ some (.rune '.') := by
    simp [upcoming_spot_append]
  have hv : v.tokens ++ rest = (ValueTree.ref (.plain key name)).tokens ++ (colon.tokens (.rune ':') ++ rest') := h
  cases v with
  | ref r =>
    have hr : r.tokens ++ rest = (RefTree.plain key name).tokens ++ (colon.tokens (.rune ':') ++ rest') := h
    obtain ⟨rfl, rfl⟩ := RefTree.append_inj hrest.1 (RefTree.stopsBefore _ hkey) hr
    exact hrest.2 key name rfl (upcoming_spot_append colon (by simp) _)
  | _ => simpa [first] using first_eq hv

mutual

theorem ValueTree.append_inj (v v' : ValueTree) {rest rest' : Tokens}
    (hrest : v.StopsBefore rest) (hrest' : v'.StopsBefore rest')
    (h : v.tokens ++ rest = v'.tokens ++ rest') : v = v' ∧ rest = rest' := by
  have hfirst := ValueTree.first_eq h
  match v, v' with
  | .ref r, .ref r' =>
    obtain ⟨rfl, rfl⟩ := RefTree.append_inj hrest hrest' h
    exact ⟨rfl, rfl⟩
  | .atom s a, .atom s' a' =>
    obtain rfl := Atom.token_injective hfirst
    obtain ⟨rfl, -, rfl⟩ := spot_append_inj (fun _ => a.token_ne_endOfLine) (fun _ => a.token_ne_endOfLine) h
    exact ⟨rfl, rfl⟩
  | .negative m s n, .negative m' s' n' =>
    simp only [ValueTree.tokens, List.append_assoc] at h
    obtain ⟨rfl, -, hnumber⟩ := spot_append_inj (by simp) (by simp) h
    obtain ⟨rfl, hn, rfl⟩ := spot_append_inj (by simp) (by simp) hnumber
    exact ⟨by rw [Token.int.inj hn], rfl⟩
  | .list o xs c, .list o' xs' c' =>
    simp only [ValueTree.tokens, List.append_assoc] at h
    obtain ⟨rfl, -, hitems⟩ := spot_append_inj (by simp) (by simp) h
    obtain ⟨rfl, hclosed⟩ :=
      ItemsTree.append_inj xs xs' (closes_spot_append .brace c rest)
        (closes_spot_append .brace c' rest') hitems
    obtain ⟨rfl, -, rfl⟩ := spot_append_inj (by simp) (by simp) hclosed
    exact ⟨rfl, rfl⟩
  | .ref _, .atom _ _ | .ref _, .negative _ _ _ | .ref _, .list _ _ _
  | .atom _ _, .ref _ | .atom _ _, .negative _ _ _ | .atom _ _, .list _ _ _
  | .negative _ _ _, .ref _ | .negative _ _ _, .atom _ _ | .negative _ _ _, .list _ _ _
  | .list _ _ _, .ref _ | .list _ _ _, .atom _ _ | .list _ _ _, .negative _ _ _ =>
    simp [ValueTree.first, eq_comm] at hfirst

theorem ItemTree.append_inj (x x' : ItemTree) {rest rest' : Tokens} (hrest : x.StopsBefore rest)
    (hrest' : x'.StopsBefore rest') (h : x.tokens ++ rest = x'.tokens ++ rest') : x = x' ∧ rest = rest' := by
  match x, x' with
  | .plain v, .plain v' =>
    obtain ⟨rfl, rfl⟩ := ValueTree.append_inj v v' hrest.1 hrest'.1 h
    exact ⟨rfl, rfl⟩
  | .keyed k n c v, .keyed k' n' c' v' =>
    simp only [ItemTree.tokens, List.append_assoc] at h
    obtain ⟨rfl, hn, hc⟩ := spot_append_inj (by simp) (by simp) h
    obtain ⟨rfl, -, hv⟩ := spot_append_inj (by simp) (by simp) hc
    obtain ⟨rfl, rfl⟩ := ValueTree.append_inj v v' hrest hrest' hv
    exact ⟨by rw [Token.word.inj hn], rfl⟩
  | .plain v, .keyed k n c v' =>
    simp only [ItemTree.tokens, List.append_assoc] at h
    exact absurd h (ValueTree.append_ne_key hrest)
  | .keyed k n c v', .plain v =>
    simp only [ItemTree.tokens, List.append_assoc] at h
    exact absurd h.symm (ValueTree.append_ne_key hrest')

theorem ItemsTree.append_inj (xs xs' : ItemsTree) {rest rest' : Tokens} (hrest : Closes rest)
    (hrest' : Closes rest') (h : xs.tokens ++ rest = xs'.tokens ++ rest') : xs = xs' ∧ rest = rest' := by
  match xs, xs' with
  | .none, .none => exact ⟨rfl, h⟩
  | .none, .last x | .none, .more x c ys =>
    simp only [ItemsTree.tokens, List.nil_append, List.append_assoc] at h
    exact absurd hrest (h ▸ x.not_closes_append _)
  | .last x, .none | .more x c ys, .none =>
    simp only [ItemsTree.tokens, List.nil_append, List.append_assoc] at h
    exact absurd hrest' (h ▸ x.not_closes_append _)
  | .last x, .last x' =>
    obtain ⟨rfl, rfl⟩ :=
      ItemTree.append_inj x x' (hrest.followsItem.stopsBefore x) (hrest'.followsItem.stopsBefore x') h
    exact ⟨rfl, rfl⟩
  | .last x, .more x' c ys =>
    simp only [ItemsTree.tokens, List.append_assoc] at h
    obtain ⟨-, rfl⟩ :=
      ItemTree.append_inj x x' (hrest.followsItem.stopsBefore x) ((comma_followsItem c _).stopsBefore x') h
    exact absurd (upcoming_spot_append c (by simp) _) hrest.upcoming_ne_comma
  | .more x c ys, .last x' =>
    simp only [ItemsTree.tokens, List.append_assoc] at h
    obtain ⟨-, rfl⟩ :=
      ItemTree.append_inj x x' ((comma_followsItem c _).stopsBefore x) (hrest'.followsItem.stopsBefore x') h
    exact absurd (upcoming_spot_append c (by simp) _) hrest'.upcoming_ne_comma
  | .more x c ys, .more x' c' ys' =>
    simp only [ItemsTree.tokens, List.append_assoc] at h
    obtain ⟨rfl, hc⟩ := ItemTree.append_inj x x' ((comma_followsItem c _).stopsBefore x)
      ((comma_followsItem c' _).stopsBefore x') h
    obtain ⟨rfl, -, hys⟩ := spot_append_inj (by simp) (by simp) hc
    obtain ⟨rfl, rfl⟩ := ItemsTree.append_inj ys ys' hrest hrest' hys
    exact ⟨rfl, rfl⟩

end

def Ends (ts : Tokens) : Prop := upcoming false ts = none ∨ upcoming false ts = some .endOfLine

theorem Ends.upcoming_ne {ts : Tokens} (h : Ends ts) (c : Char) : upcoming false ts ≠ some (.rune c) := by
  rcases h with h | h <;> simp [h]

theorem ends_nil : Ends [] := .inl rfl

theorem ends_lineEnd (pos : Position) (ts : Tokens) : Ends ((pos, .endOfLine) :: ts) := .inr rfl

/-- What follows the type of an annotation is no dot. -/
theorem ArgsTree.upcoming_append_ne (a : ArgsTree) {rest : Tokens} (hrest : Ends rest) :
    upcoming false (a.tokens ++ rest) ≠ some (.rune '.') := by
  cases a with
  | absent => exact hrest.upcoming_ne '.'
  | given b o xs c =>
    simp only [tokens, List.append_assoc]
    cases b <;> simp [upcoming_spot_append, Bracket.opening]

theorem Ends.stopsBefore {rest : Tokens} (h : Ends rest) (m : MarkTree) : m.StopsBefore rest := by
  refine ⟨m.type.stopsBefore (m.args.upcoming_append_ne h), ?_⟩
  cases m.args with
  | absent => exact fun b => h.upcoming_ne b.opening
  | given => trivial

theorem ArgsTree.append_inj {a a' : ArgsTree} {rest rest' : Tokens} (hrest : a.StopsBefore rest)
    (hrest' : a'.StopsBefore rest') (h : a.tokens ++ rest = a'.tokens ++ rest') : a = a' ∧ rest = rest' := by
  match a, a' with
  | absent, absent => exact ⟨rfl, h⟩
  | given b o xs c, given b' o' xs' c' =>
    simp only [tokens, List.append_assoc] at h
    obtain ⟨rfl, hb, hitems⟩ := spot_append_inj (by simp) (by simp) h
    obtain rfl := Bracket.opening_injective (Token.rune.inj hb)
    obtain ⟨rfl, hclosed⟩ :=
      ItemsTree.append_inj xs xs' (closes_spot_append b c rest) (closes_spot_append b c' rest') hitems
    obtain ⟨rfl, -, rfl⟩ := spot_append_inj (by simp) (by simp) hclosed
    exact ⟨rfl, rfl⟩
  | absent, given b o xs c =>
    simp only [tokens, List.append_assoc, List.nil_append] at h
    exact absurd (h ▸ upcoming_spot_append o (by simp) _) (hrest b)
  | given b o xs c, absent =>
    simp only [tokens, List.append_assoc, List.nil_append] at h
    exact absurd (h ▸ upcoming_spot_append o (by simp) _) (hrest' b)

theorem MarkTree.append_inj {m m' : MarkTree} {rest rest' : Tokens} (hrest : m.StopsBefore rest)
    (hrest' : m'.StopsBefore rest') (h : m.tokens ++ rest = m'.tokens ++ rest') : m = m' ∧ rest = rest' := by
  obtain ⟨sign, type, args⟩ := m
  obtain ⟨sign', type', args'⟩ := m'
  simp only [tokens, List.cons_append, List.append_assoc, List.cons.injEq, Prod.mk.injEq, and_true] at h
  obtain ⟨rfl, h⟩ := h
  obtain ⟨rfl, hargs⟩ := RefTree.append_inj hrest.1 hrest'.1 h
  obtain ⟨rfl, rfl⟩ := ArgsTree.append_inj hrest.2 hrest'.2 hargs
  exact ⟨rfl, rfl⟩

/-- Tokens are those of one tree at most. -/
theorem FileTree.tokens_injective {f f' : FileTree} (h : f.tokens = f'.tokens) : f = f' := by
  induction f generalizing f' with
  | done => cases f' <;> simp [tokens, MarkTree.tokens] at h ⊢
  | lineEnd pos rest ih =>
    cases f' with
    | lineEnd pos' rest' =>
      simp only [tokens, List.cons.injEq, Prod.mk.injEq, and_true] at h
      rw [h.1, ih h.2]
    | _ => simp [tokens, MarkTree.tokens] at h
  | mark m pos rest ih =>
    cases f' with
    | mark m' pos' rest' =>
      obtain ⟨rfl, hrest⟩ :=
        MarkTree.append_inj ((ends_lineEnd _ _).stopsBefore m) ((ends_lineEnd _ _).stopsBefore m') h
      simp only [List.cons.injEq, Prod.mk.injEq, and_true] at hrest
      rw [hrest.1, ih hrest.2]
    | lastMark m' =>
      have h' : m.tokens ++ (pos, .endOfLine) :: rest.tokens = m'.tokens ++ [] := by simpa [tokens] using h
      simpa using (MarkTree.append_inj ((ends_lineEnd _ _).stopsBefore m) (ends_nil.stopsBefore m') h').2
    | _ => simp [tokens, MarkTree.tokens] at h
  | lastMark m =>
    cases f' with
    | lastMark m' =>
      have h' : m.tokens ++ [] = m'.tokens ++ [] := by simpa [tokens] using h
      rw [(MarkTree.append_inj (ends_nil.stopsBefore m) (ends_nil.stopsBefore m') h').1]
    | mark m' pos' rest' =>
      have h' : m.tokens ++ [] = m'.tokens ++ (pos', .endOfLine) :: rest'.tokens := by simpa [tokens] using h
      simpa using (MarkTree.append_inj (ends_nil.stopsBefore m) ((ends_lineEnd _ _).stopsBefore m') h').2
    | _ => simp [tokens, MarkTree.tokens] at h

end ServiceAnnotations.Mark
