import ServiceAnnotations.Proofs.Source.Docs
import ServiceAnnotations.Proofs.Source.Words

/-! # What readers leave

A reader of the grammar takes tokens from those it is given and leaves others of them: what holds of all the tokens
before it holds of all the tokens behind it. So the names that a file declares are words of the file. -/
namespace ServiceAnnotations.Source

namespace Reader
variable {α β : Type} {p : Lexeme → Prop}

/-- Whether what is read from tokens with a property has another one, and the tokens that are left have the first. -/
def Gives (p : Lexeme → Prop) (r : Reader α) (q : α → Prop) : Prop :=
  ∀ ls a rest, (∀ l ∈ ls, p l) → r.run ls = some (a, rest) → q a ∧ ∀ l ∈ rest, p l

namespace Gives
variable {q q' : α → Prop} {r : Reader α}

theorem pure {a : α} (h : q a) : Gives p (Pure.pure a) q := by
  intro ls b rest hls hrun
  cases hrun
  exact ⟨h, hls⟩

theorem fail : Gives p failure q := fun _ _ _ _ hrun => by cases hrun

theorem bind {q' : β → Prop} {f : α → Reader β} (hr : Gives p r q) (hf : ∀ a, q a → Gives p (f a) q') :
    Gives p (r >>= f) q' := by
  intro ls b rest hls hrun
  rw [StateT.run_bind] at hrun
  obtain ⟨⟨a, ls'⟩, ha, hb⟩ := Option.bind_eq_some_iff.mp hrun
  obtain ⟨hq, hls'⟩ := hr ls a ls' hls ha
  exact hf a hq ls' b rest hls' hb

theorem ite {c : Prop} [Decidable c] {r' : Reader α} (h : Gives p r q) (h' : Gives p r' q) :
    Gives p (if c then r else r') q := by
  split
  · exact h
  · exact h'

theorem get : Gives p (MonadState.get : Reader (List Lexeme)) fun ls => ∀ l ∈ ls, p l := by
  intro ls a rest hls hrun
  cases hrun
  exact ⟨hls, hls⟩

end Gives

def Keeps (p : Lexeme → Prop) (r : Reader α) : Prop := Gives p r fun _ => True

theorem Gives.keeps {q : α → Prop} {r : Reader α} (h : Gives p r q) : Keeps p r := fun ls a rest hls hrun =>
  (h ls a rest hls hrun).imp_left fun _ => trivial

namespace Keeps
variable {r r' : Reader α}

theorem pure (a : α) : Keeps p (Pure.pure a) := Gives.pure trivial

theorem fail : Keeps p (failure : Reader α) := Gives.fail

theorem bind {f : α → Reader β} (hr : Keeps p r) (hf : ∀ a, Keeps p (f a)) : Keeps p (r >>= f) :=
  Gives.bind hr fun a _ => hf a

theorem ite {c : Prop} [Decidable c] (h : Keeps p r) (h' : Keeps p r') : Keeps p (if c then r else r') :=
  Gives.ite h h'

theorem map (hr : Keeps p r) (f : α → β) : Keeps p (f <$> r) := by
  rw [map_eq_pure_bind]
  exact hr.bind fun a => pure (f a)

theorem get_bind {f : List Lexeme → Reader β} (hf : ∀ ls, (∀ l ∈ ls, p l) → Keeps p (f ls)) :
    Keeps p (get >>= f) := Gives.get.bind hf

theorem set {ls : List Lexeme} (h : ∀ l ∈ ls, p l) : Keeps p (MonadStateOf.set ls : Reader PUnit) := by
  intro _ a rest _ hrun
  cases hrun
  exact ⟨trivial, h⟩

theorem modify {f : List Lexeme → List Lexeme} (h : ∀ ls, ∀ l ∈ f ls, l ∈ ls) :
    Keeps p (modify f : Reader PUnit) := by
  intro ls a rest hls hrun
  cases hrun
  exact ⟨trivial, fun l hl => hls l (h ls l hl)⟩

end Keeps

theorem gives_token : Gives p token fun t => ∃ l, p l ∧ l.token = t := by
  refine Gives.get.bind fun ls hls => ?_
  cases ls with
  | nil => exact .fail
  | cons l ls =>
    obtain ⟨hl, hls⟩ := List.forall_mem_cons.mp hls
    exact Gives.bind (Keeps.set hls) fun _ _ => .pure ⟨l, hl, rfl⟩

theorem keeps_token : Keeps p token := gives_token.keeps

theorem keeps_peek? : Keeps p peek? := .get_bind fun _ _ => .pure _

theorem keeps_doc? : Keeps p doc? := .get_bind fun _ _ => .pure _

theorem keeps_nextIs (f : Token → Bool) : Keeps p (nextIs f) := .bind keeps_peek? fun _ => .pure _

theorem keeps_operator (s : String) : Keeps p (operator s) := .bind keeps_token fun _ => .ite (.pure _) .fail

theorem keeps_keyword (s : String) : Keeps p (keyword s) := .bind keeps_token fun _ => .ite (.pure _) .fail

theorem keeps_operator? (s : String) : Keeps p (operator? s) :=
  .bind (keeps_nextIs _) fun _ => .ite (.bind keeps_token fun _ => .pure _) (.pure _)

theorem gives_ident : Gives p ident fun id => ∃ l, p l ∧ l.token.kind = .word ∧ l.token.ident = id := by
  refine gives_token.bind fun t ht => ?_
  obtain ⟨l, hl, rfl⟩ := ht
  split
  · rename_i hword
    exact .pure ⟨l, hl, hword, rfl⟩
  · exact .fail

theorem keeps_ident : Keeps p ident := gives_ident.keeps

theorem keeps_lineEnd : Keeps p lineEnd := by
  refine .bind (keeps_nextIs _) fun _ => .ite (.bind keeps_token fun _ => .pure _) (.bind keeps_peek? fun t => ?_)
  cases t with
  | none => exact .pure _
  | some t => exact .ite (.pure _) .fail

end Reader

theorem mem_of_mem_skipItem {l : Lexeme} {depth : Nat} {ls : List Lexeme} (h : l ∈ skipItem depth ls) : l ∈ ls := by
  fun_induction skipItem depth ls <;> simp_all

theorem mem_of_mem_behindClose {l : Lexeme} {depth : Nat} {ls : List Lexeme} (h : l ∈ behindClose depth ls) :
    l ∈ ls := by
  fun_induction behindClose depth ls <;> simp_all

open Reader

section
variable {p : Lexeme → Prop}

theorem keeps_parseNames : ∀ fuel : Nat, Keeps p (parseNames fuel)
  | 0 => .fail
  | fuel + 1 => .bind keeps_ident fun _ => .bind (keeps_operator? _) fun _ =>
    .ite (.bind (keeps_parseNames fuel) fun _ => .pure _) (.pure _)

mutual

theorem keeps_parseExpr : ∀ fuel least : Nat, Keeps p (parseExpr fuel least)
  | 0, _ => .fail
  | fuel + 1, least => .bind (keeps_parseUnary fuel) fun a => keeps_parseOperators fuel least a

theorem keeps_parseOperators : ∀ (fuel least : Nat) (a : Expr), Keeps p (parseOperators fuel least a)
  | 0, _, _ => .fail
  | fuel + 1, least, a => by
    refine .bind keeps_peek? fun t => ?_
    cases t with
    | none => exact .pure _
    | some t =>
      exact .ite (.pure _) <| .bind keeps_token fun _ => .bind (keeps_parseExpr fuel _) fun _ =>
        keeps_parseOperators fuel least _

theorem keeps_parseUnary : ∀ fuel : Nat, Keeps p (parseUnary fuel)
  | 0 => .fail
  | fuel + 1 => by
    refine Keeps.get_bind fun ls hls => ?_
    cases ls with
    | nil => exact .fail
    | cons l ls =>
      exact .ite (.bind (.set (List.forall_mem_cons.mp hls).2) fun _ => .bind (keeps_parseUnary fuel) fun _ => .pure _)
        (.bind (keeps_parseOperand fuel) fun e => keeps_parsePrimary fuel e)

theorem keeps_parseOperand : ∀ fuel : Nat, Keeps p (parseOperand fuel)
  | 0 => .fail
  | fuel + 1 => by
    refine .bind keeps_peek? fun t => ?_
    cases t with
    | none => exact .fail
    | some t =>
      dsimp only
      split
      · exact .bind keeps_token fun _ => .pure _
      · exact .bind keeps_token fun _ => .pure _
      · exact .bind keeps_token fun _ => .pure _
      · exact .bind keeps_ident fun _ => .pure _
      · refine .bind (keeps_operator? _) fun _ => .ite
          (.bind (keeps_parseExpr fuel 0) fun _ => .bind (keeps_operator _) fun _ => .pure _)
          (.bind (keeps_parseType fuel) fun type => ?_)
        split
        · exact .bind (keeps_operator? _) fun _ => .ite
            (.bind (.modify fun _ _ => mem_of_mem_behindClose) fun _ => .pure _) (.pure _)
        · exact .pure _

theorem keeps_parsePrimary : ∀ (fuel : Nat) (e : Expr), Keeps p (parsePrimary fuel e)
  | 0, _ => .fail
  | fuel + 1, e => by
    refine .bind (keeps_operator? _) fun _ => .ite (.bind (keeps_operator? _) fun _ => .ite ?assertion ?member)
      (.bind (keeps_operator? _) fun _ => .ite ?index (.bind (keeps_operator? _) fun _ => .ite ?call ?composite))
    case assertion =>
      exact .bind (keeps_nextIs _) fun _ => .ite (.bind .fail fun _ => .bind (keeps_parseType fuel) fun _ =>
          .bind (keeps_operator _) fun _ => keeps_parsePrimary fuel _)
        (.bind (keeps_parseType fuel) fun _ => .bind (keeps_operator _) fun _ => keeps_parsePrimary fuel _)
    case member => exact .bind keeps_ident fun _ => keeps_parsePrimary fuel _
    case index =>
      refine Keeps.get_bind fun inside hinside => ?_
      have hpart : Keeps p (do set (behindClose 0 inside); parsePrimary fuel (.part e)) :=
        .bind (.set fun l hl => hinside l (mem_of_mem_behindClose hl)) fun _ => keeps_parsePrimary fuel _
      split
      · rename_i hrun
        have hrest := (keeps_parseExprs fuel _ _ _ hinside hrun).2
        exact .ite (.bind (.set (List.forall_mem_cons.mp hrest).2) fun _ => keeps_parsePrimary fuel _) hpart
      · exact hpart
    case call =>
      exact .bind (keeps_parseExprs fuel) fun _ => .bind (keeps_operator? _) fun _ => .bind (keeps_operator? _) fun _ =>
        .bind (keeps_operator _) fun _ => keeps_parsePrimary fuel _
    case composite =>
      exact .bind (keeps_nextIs _) fun _ => .ite (.bind (keeps_operator _) fun _ => .bind (keeps_parseKeys fuel) fun _ =>
        keeps_parsePrimary fuel _) (.pure _)

theorem keeps_parseExprs : ∀ fuel : Nat, Keeps p (parseExprs fuel)
  | 0 => .fail
  | fuel + 1 => .bind (keeps_nextIs _) fun _ => .ite (.pure _) <| .bind (keeps_parseExpr fuel 0) fun _ =>
    .bind (keeps_operator? _) fun _ => .ite (.bind (keeps_parseExprs fuel) fun _ => .pure _) (.pure _)

theorem keeps_parseKeys : ∀ fuel : Nat, Keeps p (parseKeys fuel)
  | 0 => .fail
  | fuel + 1 => by
    have hrest : ∀ key : Option Expr, Keeps p (do
        if ← operator? "," then return key :: (← parseKeys fuel)
        operator "\x7d"
        return [key]) := fun key =>
      .bind (keeps_operator? _) fun _ => .ite (.bind (keeps_parseKeys fuel) fun _ => .pure _)
        (.bind (keeps_operator _) fun _ => .pure _)
    exact .bind (keeps_operator? _) fun _ => .ite (.pure _) <| .bind (keeps_parseItem fuel) fun first =>
      .bind (keeps_operator? _) fun _ => .ite
        (.bind (keeps_parseItem fuel) fun _ => .bind (.pure (some first)) hrest) (.bind (.pure none) hrest)

theorem keeps_parseItem : ∀ fuel : Nat, Keeps p (parseItem fuel)
  | 0 => .fail
  | fuel + 1 => .bind (keeps_operator? _) fun _ => .ite (.bind (keeps_parseKeys fuel) fun _ => .pure _)
    (keeps_parseExpr fuel 0)

theorem keeps_parseType : ∀ fuel : Nat, Keeps p (parseType fuel)
  | 0 => .fail
  | fuel + 1 => by
    refine .bind keeps_token fun t => ?_
    have helem : ∀ f : TypeExpr → TypeExpr, Keeps p (do return f (← parseType fuel)) := fun f =>
      .bind (keeps_parseType fuel) fun _ => .pure _
    dsimp only
    split
    · have hargs : ∀ base : TypeExpr, Keeps p (do
          if ← operator? "[" then return .apply base (← parseTypeArgs fuel)
          else return base) := fun base =>
        .bind (keeps_operator? _) fun _ => .ite (.bind (keeps_parseTypeArgs fuel) fun _ => .pure _) (.pure _)
      exact .bind (keeps_operator? _) fun _ => .ite (.bind (.map keeps_ident _) hargs)
        (.bind (.pure (TypeExpr.name t.ident)) hargs)
    · split
      · exact helem _
      · exact .bind (keeps_parseType fuel) fun _ => .bind (keeps_operator _) fun _ => .pure _
      · exact .bind (keeps_operator? _) fun _ => .ite (helem _) <| .bind (keeps_operator? _) fun _ => .ite
          (.bind (keeps_operator _) fun _ => helem _)
          (.bind (keeps_parseExpr fuel 0) fun length => .bind (keeps_operator _) fun _ => helem _)
      · exact .bind (keeps_keyword _) fun _ => helem _
      · exact .fail
    · split
      · exact .bind (keeps_operator _) fun _ => .bind (keeps_parseType fuel) fun key => .bind (keeps_operator _) fun _ =>
          helem _
      · exact .bind (keeps_operator? _) fun _ => .ite (helem _) (helem _)
      · exact .bind (keeps_parseSignature fuel) fun _ => .pure _
      · exact .bind (keeps_operator _) fun _ => .bind (keeps_parseFields fuel) fun _ => .pure _
      · exact .bind (keeps_operator _) fun _ => .bind (keeps_parseItems fuel) fun _ => .pure _
      · exact .fail
    · exact .fail

theorem keeps_parseTypeArgs : ∀ fuel : Nat, Keeps p (parseTypeArgs fuel)
  | 0 => .fail
  | fuel + 1 => .bind (keeps_operator? _) fun _ => .ite (.pure _) <| .bind (keeps_parseType fuel) fun _ =>
    .bind (keeps_operator? _) fun _ => .ite (.bind (keeps_parseTypeArgs fuel) fun _ => .pure _)
      (.bind (keeps_operator _) fun _ => .pure _)

theorem keeps_parseSignature : ∀ fuel : Nat, Keeps p (parseSignature fuel)
  | 0 => .fail
  | fuel + 1 => .bind (keeps_operator _) fun _ => .bind (keeps_parseParams fuel) fun _ =>
    .bind (keeps_operator? _) fun _ => .ite (.bind (keeps_parseParams fuel) fun _ => .pure _) <|
      .bind (keeps_nextIs _) fun _ => .ite (.bind (keeps_parseType fuel) fun _ => .pure _) (.pure _)

theorem keeps_parseParams : ∀ fuel : Nat, Keeps p (parseParams fuel)
  | 0 => .fail
  | fuel + 1 => .bind (keeps_operator? _) fun _ => .ite (.pure _) <| .bind (keeps_parseParam fuel) fun _ =>
    .bind (keeps_operator? _) fun _ => .ite (.bind (keeps_parseParams fuel) fun _ => .pure _)
      (.bind (keeps_operator _) fun _ => .pure _)

theorem keeps_parseParam : ∀ fuel : Nat, Keeps p (parseParam fuel)
  | 0 => .fail
  | fuel + 1 => by
    have htype : ∀ f : TypeExpr → RawParam, Keeps p (do return f (← parseType fuel)) := fun f =>
      .bind (keeps_parseType fuel) fun _ => .pure _
    refine .bind (keeps_operator? _) fun _ => .ite (htype _) (Keeps.get_bind fun ls _ => ?_)
    cases ls with
    | nil => exact .fail
    | cons l ls =>
      exact .ite (.bind keeps_ident fun _ => .bind (keeps_operator? _) fun _ => .ite (htype _) (htype _)) (htype _)

theorem keeps_parseFields : ∀ fuel : Nat, Keeps p (parseFields fuel)
  | 0 => .fail
  | fuel + 1 => by
    refine .bind (keeps_operator? _) fun _ => .ite (.pure _) <| .bind keeps_doc? fun doc =>
      .bind (keeps_parseFieldHead fuel) fun (names, type) => ?_
    have hrest : ∀ tag : Option (List Char), Keeps p (do
        lineEnd
        return .mk doc names type tag :: (← parseFields fuel)) := fun tag =>
      .bind keeps_lineEnd fun _ => .bind (keeps_parseFields fuel) fun _ => .pure _
    exact .bind (keeps_nextIs _) fun _ => .ite (.bind (.map keeps_token _) hrest) (.bind (.pure none) hrest)

theorem keeps_parseFieldHead : ∀ fuel : Nat, Keeps p (parseFieldHead fuel)
  | 0 => .fail
  | fuel + 1 => by
    refine Keeps.get_bind fun ls _ => ?_
    cases ls with
    | nil => exact .fail
    | cons l ls =>
      exact .ite (.bind (keeps_parseType fuel) fun _ => .pure _)
        (.bind (keeps_parseNames fuel) fun _ => .bind (keeps_parseType fuel) fun _ => .pure _)

theorem keeps_parseItems : ∀ fuel : Nat, Keeps p (parseItems fuel)
  | 0 => .fail
  | fuel + 1 => by
    have hrest : ∀ item : InterfaceItem, Keeps p (do
        lineEnd
        return item :: (← parseItems fuel)) := fun item =>
      .bind keeps_lineEnd fun _ => .bind (keeps_parseItems fuel) fun _ => .pure _
    exact .bind (keeps_operator? _) fun _ => .ite (.pure _) <| .bind keeps_doc? fun doc =>
      Keeps.get_bind fun ls _ => .ite
        (.bind keeps_ident fun name => .bind (keeps_parseSignature fuel) fun sig => .bind (.pure _) hrest)
        (.bind (.map (keeps_parseTerms fuel) _) hrest)

theorem keeps_parseTerms : ∀ fuel : Nat, Keeps p (parseTerms fuel)
  | 0 => .fail
  | fuel + 1 => .bind (keeps_operator? _) fun _ => .bind (keeps_parseType fuel) fun _ =>
    .bind (keeps_operator? _) fun _ => .ite (.bind (keeps_parseTerms fuel) fun _ => .pure _) (.pure _)

end

theorem keeps_parseTypeParams : ∀ fuel : Nat, Keeps p (parseTypeParams fuel)
  | 0 => .fail
  | fuel + 1 => .bind (keeps_operator? _) fun _ => .ite (.pure _) <| .bind (keeps_parseNames fuel) fun _ =>
    .bind (keeps_parseTerms fuel) fun _ => .bind (keeps_operator? _) fun _ =>
      .ite (.bind (keeps_parseTypeParams fuel) fun _ => .pure _) (.bind (keeps_operator _) fun _ => .pure _)

def IsNamed (p : Lexeme → Prop) (d : Decl) : Prop :=
  ∀ spec, d = .type spec → ∃ l, p l ∧ l.token.kind = .word ∧ l.token.ident = spec.name

theorem gives_parseTypeSpec (fuel : Nat) (doc : Option CommentGroup) : Gives p (parseTypeSpec fuel doc) (IsNamed p) := by
  refine gives_ident.bind fun name hname => ?_
  have hrest : ∀ params : List TypeParam, Gives p (do
      let isAlias ← operator? "="
      return .type ⟨doc, name, params, isAlias, ← parseType fuel⟩) (IsNamed p) := by
    refine fun params => Gives.bind (keeps_operator? _) fun _ _ => Gives.bind (keeps_parseType fuel) fun _ _ => .pure ?_
    rintro spec ⟨⟩
    exact hname
  exact Gives.get.bind fun _ _ => .ite
    (Gives.bind (keeps_operator _) fun _ _ => Gives.bind (keeps_parseTypeParams fuel) fun params _ => hrest params)
    (Gives.bind (Keeps.pure []) fun params _ => hrest params)

theorem keeps_parseValues : ∀ fuel : Nat, Keeps p (parseValues fuel)
  | 0 => .fail
  | fuel + 1 => by
    refine .get_bind fun ls hls => ?_
    split
    · rename_i hrun
      have hrest := (keeps_parseExpr fuel 0 _ _ _ hls hrun).2
      exact .bind (.set hrest) fun _ => .bind (keeps_operator? _) fun _ => .ite
        (.bind (keeps_parseValues fuel) fun _ => .pure _)
        (.bind (.set fun l hl => hrest l (mem_of_mem_skipItem hl)) fun _ => .pure _)
    · exact .bind (.set fun l hl => hls l (mem_of_mem_skipItem hl)) fun _ => .pure _

/-- Names, type and values of constants or variables. -/
theorem gives_valueSpec {fuel : Nat} (decl : List Ident → Option TypeExpr → List Expr → Decl)
    (hdecl : ∀ names type values spec, decl names type values ≠ .type spec) :
    Gives p (do
      let names ← parseNames fuel
      let type ← if ← nextIs startsType then some <$> parseType fuel else pure none
      let values ← if ← operator? "=" then parseValues fuel else pure []
      return decl names type values) (IsNamed p) := by
  have hend : ∀ names type values, Gives p (pure (decl names type values)) (IsNamed p) := fun names type values =>
    .pure fun spec h => absurd h (hdecl names type values spec)
  have hvalues : ∀ names type, Gives p (do
      let values ← if ← operator? "=" then parseValues fuel else pure []
      return decl names type values) (IsNamed p) := fun names type =>
    Gives.bind (keeps_operator? _) fun _ _ => .ite
      (Gives.bind (keeps_parseValues fuel) fun _ _ => hend names type _)
      (Gives.bind (Keeps.pure []) fun _ _ => hend names type _)
  exact Gives.bind (keeps_parseNames fuel) fun names _ => Gives.bind (keeps_nextIs _) fun _ _ => .ite
    (Gives.bind (Keeps.map (keeps_parseType fuel) _) fun type _ => hvalues names type)
    (Gives.bind (Keeps.pure none) fun type _ => hvalues names type)

theorem gives_parseConstSpec (fuel : Nat) (doc : Option CommentGroup) (iota : Nat) :
    Gives p (parseConstSpec fuel doc iota) (IsNamed p) :=
  gives_valueSpec (fun names type values => .const ⟨doc, names, type, values, iota⟩) nofun

theorem gives_parseVarSpec (fuel : Nat) (doc : Option CommentGroup) : Gives p (parseVarSpec fuel doc) (IsNamed p) :=
  gives_valueSpec (fun names type values => .var ⟨doc, names, type, values⟩) nofun

theorem keeps_parseImportSpec : Keeps p parseImportSpec :=
  .bind keeps_token fun _ => .ite (.pure _) (.bind keeps_token fun _ => .pure _)

section
variable {α : Type} {q : α → Prop} {spec : Option CommentGroup → Nat → Reader α}
  (hspec : ∀ doc i, Gives p (spec doc i) q)
include hspec

theorem gives_parseGroup : ∀ fuel i : Nat, Gives p (parseGroup spec fuel i) fun as => ∀ a ∈ as, q a
  | 0, _ => .fail
  | fuel + 1, i => by
    refine Gives.bind (keeps_operator? _) fun _ _ => .ite (.pure nofun) ?_
    refine Gives.bind keeps_doc? fun doc _ => (hspec doc i).bind fun a ha => ?_
    refine Gives.bind keeps_lineEnd fun _ _ => (gives_parseGroup fuel (i + 1)).bind fun as has => .pure ?_
    exact List.forall_mem_cons.mpr ⟨ha, has⟩

theorem gives_parseMembers (fuel : Nat) : Gives p (parseMembers fuel spec) fun as => ∀ a ∈ as, q a :=
  Gives.bind (keeps_operator? _) fun _ _ => .ite (gives_parseGroup hspec fuel 0)
    ((hspec none 0).bind fun _ ha => .pure (List.forall_mem_singleton.mpr ha))

end

theorem keeps_parseReceiver (fuel : Nat) : Keeps p (parseReceiver fuel) := by
  refine .bind (keeps_parseParams fuel) fun raw => ?_
  split
  · rename_i type _ _
    cases h : receiverOf? false type with
    | none => exact .fail
    | some r => exact .pure r
  · exact .fail

theorem gives_parseFunc (fuel : Nat) (doc : Option CommentGroup) : Gives p (parseFunc fuel doc) (IsNamed p) := by
  have hrest : ∀ receiver : Option Receiver, Gives p (do
      let name ← ident
      let params ← if ← operator? "[" then parseTypeParams fuel else pure []
      let sig ← parseSignature fuel
      modify (skipItem 0)
      return .func ⟨doc, name, receiver, params, sig⟩) (IsNamed p) := by
    intro receiver
    have hend : ∀ (name : Ident) (params : List TypeParam), Gives p (do
        let sig ← parseSignature fuel
        modify (skipItem 0)
        return .func ⟨doc, name, receiver, params, sig⟩) (IsNamed p) := fun name params =>
      Gives.bind (keeps_parseSignature fuel) fun _ _ => Gives.bind (Keeps.modify fun _ _ => mem_of_mem_skipItem)
        fun _ _ => .pure nofun
    exact Gives.bind keeps_ident fun name _ => Gives.bind (keeps_operator? _) fun _ _ => .ite
      (Gives.bind (keeps_parseTypeParams fuel) fun params _ => hend name params)
      (Gives.bind (Keeps.pure []) fun params _ => hend name params)
  exact Gives.bind (keeps_operator? _) fun _ _ => .ite
    (Gives.bind (Keeps.map (keeps_parseReceiver fuel) _) fun receiver _ => hrest receiver)
    (Gives.bind (Keeps.pure none) fun receiver _ => hrest receiver)

theorem gives_parseDecl (fuel : Nat) : Gives p (parseDecl fuel) fun r => ∀ d ∈ r.2, IsNamed p d := by
  refine Gives.bind keeps_doc? fun doc _ => Gives.bind keeps_token fun t _ => ?_
  split
  · exact Gives.bind (gives_parseMembers (q := fun _ => True) (fun _ _ => keeps_parseImportSpec) fuel) fun _ _ =>
      .pure nofun
  · exact (gives_parseMembers (fun _ _ => gives_parseTypeSpec fuel _) fuel).bind fun _ h => .pure h
  · exact (gives_parseMembers (fun _ i => gives_parseConstSpec fuel _ i) fuel).bind fun _ h => .pure h
  · exact (gives_parseMembers (fun _ _ => gives_parseVarSpec fuel _) fuel).bind fun _ h => .pure h
  · exact (gives_parseFunc fuel doc).bind fun _ h => .pure (List.forall_mem_singleton.mpr h)
  · exact .fail

theorem gives_parseDecls : ∀ fuel : Nat, Gives p (parseDecls fuel) fun r => ∀ d ∈ r.2, IsNamed p d
  | 0 => .fail
  | fuel + 1 => by
    refine Gives.bind keeps_peek? fun t _ => ?_
    cases t with
    | none => exact .pure nofun
    | some t =>
      refine .ite (Gives.bind keeps_token fun _ _ => gives_parseDecls fuel) ?_
      refine (gives_parseDecl fuel).bind fun _ h => Gives.bind keeps_lineEnd fun _ _ => ?_
      refine (gives_parseDecls fuel).bind fun _ h' => .pure fun d hd => ?_
      exact (List.mem_append.mp hd).elim (h d) (h' d)

end

/-- A type that a file declares has a word for a name. -/
theorem File.isWord_of_read? {path content : Bytes} {f : File} (h : File.read? path content = some f)
    {spec : TypeSpec} (hspec : .type spec ∈ f.decls) : IsWord spec.name.name.toList := by
  simp only [File.read?, Option.bind_eq_bind, Option.bind_eq_some_iff] at h
  obtain ⟨source, -, ⟨file, rest⟩, hrun, ⟨⟩⟩ := h
  have hnamed := (Gives.bind keeps_doc? fun _ _ => Gives.bind (keeps_keyword _) fun _ _ =>
    Gives.bind keeps_ident fun _ _ => Gives.bind keeps_lineEnd fun _ _ => (gives_parseDecls _).bind fun _ hdecls =>
      Gives.pure (q := fun f : File => ∀ d ∈ f.decls, IsNamed (· ∈ lexemes source) d) hdecls)
    _ _ _ (fun _ hl => hl) hrun
  obtain ⟨l, hl, hword, hname⟩ := hnamed.1 _ hspec spec rfl
  rw [← hname]
  simpa [Token.ident] using isWord_of_mem_lexemes hl hword

end ServiceAnnotations.Source
