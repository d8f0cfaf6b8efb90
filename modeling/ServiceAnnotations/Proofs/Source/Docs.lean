import Mathlib.Tactic.Tauto
import ServiceAnnotations.Proofs.Text.Utf8
import ServiceAnnotations.Source.Parser

/-! # Where documented things stand in a file

Whether something can be documented where it stands follows from the tokens before it: what announced
the innermost open bracket, and whether an item starts there. The walk over the tokens of a file finds
all such places, however deep they are nested. -/
namespace ServiceAnnotations.Source

namespace Token

variable {t : Token} {s : String}

theorem isOperator_iff : t.isOperator s = true ↔ t.kind = .operator ∧ t.text = s.toList := by
  simp [isOperator]

theorem isKeyword_iff : t.isKeyword s = true ↔ t.kind = .keyword ∧ t.text = s.toList := by
  simp [isKeyword]

/-- A token is no operator but the one it is. -/
theorem isOperator_eq_false {s' : String} (h : t.isOperator s = true) (hne : s.toList ≠ s'.toList) :
    t.isOperator s' = false := by
  simp [isOperator, (isOperator_iff.mp h).2, hne]

theorem isOperator_of_kind_ne (h : t.kind ≠ .operator) : t.isOperator s = false := by
  simp [isOperator, h]

end Token

/-- Tokens in which the brackets that are opened are closed again, and no others. -/
inductive Matched : List Token → Prop
  | nil : Matched []
  | plain {t : Token} {ts : List Token} (notOpen : opens t = false) (notClose : closes t = false)
      (rest : Matched ts) : Matched (t :: ts)
  | nested {o c : Token} {ts us : List Token} (open' : opens o = true) (close : closes c = true)
      (inner : Matched ts) (rest : Matched us) : Matched (o :: ts ++ c :: us)

/-- Whether an item starts behind these tokens: at the very start, or behind a semicolon. -/
def AtItem (ts : List Token) : Prop := ts = [] ∨ ∃ us t, ts = us ++ [t] ∧ t.isEnd = true

inductive Documentable : List Token → Token → Prop
  /-- A declaration of imports, constants, types or variables, at the top level or inside a function. The
  keyword in parentheses is no declaration. -/
  | declaration {before : List Token} {t : Token} (keyword : DocWalk.isDeclKeyword t = true)
      (notInParens : ∀ o, before.getLast? = some o → o.isOperator "(" = false) : Documentable before t
  /-- A function or method. -/
  | function {before : List Token} {t : Token} (matched : Matched before) (item : AtItem before)
      (keyword : t.isKeyword "func" = true) : Documentable before t
  /-- A member of a group of declarations. -/
  | member {outer inner : List Token} {k o t : Token} (keyword : DocWalk.isDeclKeyword k = true)
      (paren : o.isOperator "(" = true) (matched : Matched inner) (item : AtItem inner)
      (start : t.kind = .word ∨ t.kind = .string ∨ t.isOperator "." = true) :
      Documentable (outer ++ k :: o :: inner) t
  /-- A field of a struct, perhaps an embedded one. -/
  | field {outer inner : List Token} {k o t : Token} (keyword : k.isKeyword "struct" = true)
      (brace : o.isOperator "\x7b" = true) (matched : Matched inner) (item : AtItem inner)
      (start : t.kind = .word ∨ t.isOperator "*" = true ∨ t.isOperator "(" = true) :
      Documentable (outer ++ k :: o :: inner) t
  /-- A method of an interface, or an embedded type with a name. -/
  | method {outer inner : List Token} {k o t : Token} (keyword : k.isKeyword "interface" = true)
      (brace : o.isOperator "\x7b" = true) (matched : Matched inner) (item : AtItem inner)
      (start : t.kind = .word) : Documentable (outer ++ k :: o :: inner) t

/-- Whether a comment documents something in a file with the given tokens. -/
def Documents (ls : List Lexeme) (doc : CommentGroup) : Prop :=
  ∃ before l after, ls = before ++ l :: after ∧ l.doc = some doc ∧
    Documentable (before.map Lexeme.token) l.token

namespace DocWalk

variable {t : Token} (w : DocWalk)

theorem kind_of_isDeclKeyword (h : isDeclKeyword t = true) : t.kind = .keyword := by
  simp only [isDeclKeyword, Bool.or_eq_true, Token.isKeyword_iff] at h
  tauto

theorem step_of_opens (h : opens t = true) :
    (w.step t).nesting.tail = w.nesting ∧ (w.step t).atStart = true := by
  simp only [opens, Bool.or_eq_true] at h
  rcases h with (h | h) | h
  · simp [step, h]
  · have hparen : t.isOperator "(" = false := Token.isOperator_eq_false h (by decide)
    have hbrace : t.isOperator "\x7b" = false := Token.isOperator_eq_false h (by decide)
    simp [step, h, hparen, hbrace]
  · have hparen : t.isOperator "(" = false := Token.isOperator_eq_false h (by decide)
    simp [step, h, hparen]

theorem opens_of_closes (h : closes t = true) : opens t = false := by
  simp only [closes, Bool.or_eq_true] at h
  rcases h with (h | h) | h <;> simp [opens, Token.isOperator, Token.isOperator_iff.mp h]

theorem nesting_step_of_closes (h : closes t = true) : (w.step t).nesting = w.nesting.tail := by
  have hopen := opens_of_closes h
  simp only [opens, Bool.or_eq_false_iff] at hopen
  simp only [closes, Bool.or_eq_true] at h
  have hclose : (t.isOperator ")" || t.isOperator "\x7d" || t.isOperator "]") = true := by
    simp only [Bool.or_eq_true]
    tauto
  simp [step, hopen, hclose]

theorem nesting_step_of_plain (hopen : opens t = false) (hclose : closes t = false) :
    (w.step t).nesting = w.nesting := by
  simp only [opens, closes, Bool.or_eq_false_iff] at hopen hclose
  simp only [step, hopen, hclose, Bool.or_self, Bool.false_eq_true, if_false]
  split <;> rfl

theorem opens_of_isEnd (h : t.isEnd = true) : opens t = false ∧ closes t = false := by
  simp only [Token.isEnd, Bool.or_eq_true, decide_eq_true_eq] at h
  rcases h with h | h
  · simp [opens, closes, Token.isOperator, h]
  · simp [opens, closes, Token.isOperator, Token.isOperator_iff.mp h]

theorem atStart_step_of_isEnd (h : t.isEnd = true) : (w.step t).atStart = true := by
  obtain ⟨hopen, hclose⟩ := opens_of_isEnd h
  simp only [opens, closes, Bool.or_eq_false_iff] at hopen hclose
  simp [step, hopen, hclose, h]

theorem step_of_keyword (h : t.kind = .keyword) :
    (w.step t).announced =
      (if isDeclKeyword t then .declaration else if t.isKeyword "struct" then .struct
        else if t.isKeyword "interface" then .interface else .nothing) := by
  have hop : ∀ s, t.isOperator s = false := fun s => Token.isOperator_of_kind_ne (by simp [h])
  have hend : t.isEnd = false := by simp [Token.isEnd, h, hop]
  simp [step, hop, hend]

theorem step_paren (h : t.isOperator "(" = true) (hw : w.announced = .declaration) :
    (w.step t).nesting = .group :: w.nesting := by
  simp [step, h, hw]

theorem step_brace (h : t.isOperator "\x7b" = true) :
    (w.announced = .struct → (w.step t).nesting = .struct :: w.nesting) ∧
      (w.announced = .interface → (w.step t).nesting = .interface :: w.nesting) := by
  have hparen : t.isOperator "(" = false := Token.isOperator_eq_false h (by decide)
  constructor <;> (intro hw; simp [step, h, hparen, hw])

theorem afterParen_step (h : t.isOperator "(" = false) : (w.step t).afterParen = false := by
  unfold step
  simp only [h, Bool.false_eq_true, if_false]
  split
  · rfl
  · split
    · rfl
    · split
      · rfl
      · split <;> rfl

def walk (w : DocWalk) (ts : List Token) : DocWalk := ts.foldl step w

theorem walk_append (ts us : List Token) : w.walk (ts ++ us) = (w.walk ts).walk us := List.foldl_append

theorem walk_cons (t : Token) (ts : List Token) : w.walk (t :: ts) = (w.step t).walk ts := rfl

/-- Matched brackets leave the nesting as it was. -/
theorem nesting_walk {ts : List Token} (h : Matched ts) (w : DocWalk) :
    (w.walk ts).nesting = w.nesting := by
  induction h generalizing w with
  | nil => rfl
  | plain notOpen notClose rest ih =>
    rw [walk_cons, ih, nesting_step_of_plain w notOpen notClose]
  | nested open' close inner rest ihInner ihRest =>
    rw [List.cons_append, walk_cons, walk_append, walk_cons, ihRest, nesting_step_of_closes _ close, ihInner,
      (w.step_of_opens open').1]

theorem atStart_walk {ts : List Token} (h : AtItem ts) (hw : w.atStart = true) :
    (w.walk ts).atStart = true := by
  rcases h with rfl | ⟨us, t, rfl, hend⟩
  · exact hw
  · rw [walk_append]
    exact atStart_step_of_isEnd _ hend

theorem afterParen_walk {ts : List Token}
    (h : ∀ o, ts.getLast? = some o → o.isOperator "(" = false) :
    (DocWalk.walk {} ts).afterParen = false := by
  rcases List.eq_nil_or_concat ts with rfl | ⟨us, o, rfl⟩
  · rfl
  · rw [List.concat_eq_append] at h ⊢
    rw [walk_append]
    exact afterParen_step _ (h o (by simp))

/-- Behind an opening bracket and whole items of what it encloses, the innermost open bracket is that
one. -/
theorem walk_inside {outer inner : List Token} {k o : Token} {e : Enclosure} (ho : opens o = true)
    (he : (((DocWalk.walk {} outer).step k).step o).nesting =
      e :: ((DocWalk.walk {} outer).step k).nesting)
    (matched : Matched inner) (item : AtItem inner) :
    ∃ rest, (DocWalk.walk {} (outer ++ k :: o :: inner)).nesting = e :: rest ∧
      (DocWalk.walk {} (outer ++ k :: o :: inner)).atStart = true := by
  rw [walk_append, walk_cons, walk_cons]
  obtain ⟨-, hstart⟩ := ((DocWalk.walk {} outer).step k).step_of_opens ho
  exact ⟨_, (nesting_walk matched _).trans he, atStart_walk _ item hstart⟩

/-- The walk finds everything that can be documented. -/
theorem isDocumented_of_documentable {before : List Token} {t : Token} (h : Documentable before t) :
    (DocWalk.walk {} before).isDocumented t = true := by
  cases h with
  | declaration keyword notInParens =>
    simp [isDocumented, keyword, afterParen_walk notInParens]
  | function matched item keyword =>
    have hdecl : isDeclKeyword t = false := by
      simp [isDeclKeyword, Token.isKeyword, Token.isKeyword_iff.mp keyword]
    have hstart : (DocWalk.walk {} before).atStart = true := atStart_walk {} item rfl
    simp [isDocumented, hdecl, nesting_walk matched, hstart, keyword]
  | @member outer inner k o _ keyword paren matched item start =>
    have hk := (DocWalk.walk {} outer).step_of_keyword (kind_of_isDeclKeyword keyword)
    rw [if_pos keyword] at hk
    obtain ⟨rest, hnesting, hstart⟩ := walk_inside (by simp [opens, paren])
      (((DocWalk.walk {} outer).step k).step_paren paren hk) matched item
    have ht : isDeclKeyword t = false ∧ t.isOperator ")" = false := by
      rcases start with h | h | h
      · simp [isDeclKeyword, Token.isKeyword, Token.isOperator, h]
      · simp [isDeclKeyword, Token.isKeyword, Token.isOperator, h]
      · simp [isDeclKeyword, Token.isKeyword, Token.isOperator, Token.isOperator_iff.mp h]
    simp [isDocumented, hnesting, hstart, ht]
  | @field outer inner k o _ keyword brace matched item start =>
    have hk := (DocWalk.walk {} outer).step_of_keyword (Token.isKeyword_iff.mp keyword).1
    have hdecl : isDeclKeyword k = false := by
      simp [isDeclKeyword, Token.isKeyword, Token.isKeyword_iff.mp keyword]
    rw [if_neg (by simp [hdecl]), if_pos keyword] at hk
    obtain ⟨rest, hnesting, hstart⟩ := walk_inside (by simp [opens, brace])
      ((((DocWalk.walk {} outer).step k).step_brace brace).1 hk) matched item
    have ht : isDeclKeyword t = false ∧ t.isOperator "\x7d" = false := by
      rcases start with h | h | h
      · simp [isDeclKeyword, Token.isKeyword, Token.isOperator, h]
      · simp [isDeclKeyword, Token.isKeyword, Token.isOperator, Token.isOperator_iff.mp h]
      · simp [isDeclKeyword, Token.isKeyword, Token.isOperator, Token.isOperator_iff.mp h]
    simp [isDocumented, hnesting, hstart, ht]
  | @method outer inner k o _ keyword brace matched item start =>
    have hk := (DocWalk.walk {} outer).step_of_keyword (Token.isKeyword_iff.mp keyword).1
    have hdecl : isDeclKeyword k = false := by
      simp [isDeclKeyword, Token.isKeyword, Token.isKeyword_iff.mp keyword]
    have hstruct : k.isKeyword "struct" = false := by
      simp [Token.isKeyword, Token.isKeyword_iff.mp keyword]
    rw [if_neg (by simp [hdecl]), if_neg (by simp [hstruct]), if_pos keyword] at hk
    obtain ⟨rest, hnesting, hstart⟩ := walk_inside (by simp [opens, brace])
      ((((DocWalk.walk {} outer).step k).step_brace brace).2 hk) matched item
    have ht : isDeclKeyword t = false := by simp [isDeclKeyword, Token.isKeyword, start]
    simp [isDocumented, hnesting, hstart, ht, start]

end DocWalk

theorem mem_docsFrom {w : DocWalk} {before after : List Lexeme} {l : Lexeme} {doc : CommentGroup}
    (hdoc : l.doc = some doc)
    (hl : (w.walk (before.map Lexeme.token)).isDocumented l.token = true) :
    doc ∈ docsFrom w (before ++ l :: after) := by
  induction before generalizing w with
  | nil =>
    rw [List.nil_append, docsFrom]
    simp only [List.map_nil] at hl
    have hl' : w.isDocumented l.token = true := hl
    simp [hdoc, hl']
  | cons b before ih =>
    have hrest := ih (w := w.step b.token) hl
    rw [List.cons_append, docsFrom]
    split
    · split
      · exact List.mem_cons_of_mem _ hrest
      · exact hrest
    · exact hrest

theorem mem_docsFrom_of_documents {ls : List Lexeme} {doc : CommentGroup} (h : Documents ls doc) :
    doc ∈ docsFrom {} ls := by
  obtain ⟨before, l, after, rfl, hdoc, hl⟩ := h
  exact mem_docsFrom hdoc (DocWalk.isDocumented_of_documentable hl)

/-- Whether a file is read from a source text. -/
def File.ReadFrom (f : File) (source : List Char) : Prop :=
  File.read? f.path (Bytes.ofChars source) = some f

theorem File.ReadFrom.docs_eq {f : File} {source : List Char} (h : f.ReadFrom source) :
    f.docs = docsFrom {} (lexemes source) := by
  have hsource : (Text.Utf8.glyphs (Bytes.ofChars source)).mapM Text.Glyph.char? = some source :=
    Text.Utf8.mapM_char?_glyphs_eq_some_iff.mpr rfl
  simp only [File.ReadFrom, File.read?, hsource, Option.bind_eq_bind, Option.bind_some, StateT.run_bind,
    Option.bind_eq_some_iff, StateT.run_pure, Option.pure_def, Option.some.injEq] at h
  obtain ⟨_, ⟨_, -, _, -, _, -, _, -, _, -, rfl⟩, hf⟩ := h
  rw [← hf]

end ServiceAnnotations.Source
