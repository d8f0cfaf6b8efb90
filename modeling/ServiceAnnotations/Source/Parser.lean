import ServiceAnnotations.Source.Docs
import ServiceAnnotations.Source.Grammar

/-! # Reading the declarations of a Go source file -/
namespace ServiceAnnotations.Source
open Text Reader

def parseTypeParams : Nat → Reader (List TypeParam)
  | 0 => failure
  | fuel + 1 => do
    if ← operator? "]" then return []
    let names ← parseNames fuel
    let constraint ← parseTerms fuel
    let params := names.map (⟨·, constraint⟩)
    if ← operator? "," then return params ++ (← parseTypeParams fuel)
    operator "]"
    return params

def isConstraint : Expr → Bool
  | .type (.name _) | .type (.member _ _) | .type (.apply _ _) | .type (.paren _) => false
  | .type _ => true
  | .paren e => isConstraint e
  | .binary _ a b => isConstraint a || isConstraint b
  | .unary op _ => op = "~"
  | _ => false

/-- Whether an expression behind an opening bracket turns out to be a type parameter with its constraint:
it starts with a name, and what reads like the second factor or the argument is a type, or a comma
follows. -/
def isTypeParam (hasComma : Bool) : Expr → Bool
  | .binary "*" (.name _) e => hasComma || isConstraint e
  | .binary "|" a e => isTypeParam (hasComma || isConstraint e) a
  | .call (.name _) [e] _ => hasComma || isConstraint e
  | _ => false

def opensTypeParams (fuel : Nat) (ls : List Lexeme) : Bool :=
  match ls with
  | bracket :: name :: next :: rest =>
    bracket.token.isOperator "[" && name.token.kind = .word && !next.token.isOperator "]" &&
      (next.token.isOperator "[" ||
        match (parseExpr fuel 0).run (name :: next :: rest) with
        | some (.name _, _) => true
        | some (e, l :: _) => isTypeParam (l.token.isOperator ",") e
        | _ => true)
  | _ => false

def parseTypeSpec (fuel : Nat) (doc : Option CommentGroup) : Reader Decl := do
  let name ← ident
  let params ← if opensTypeParams fuel (← get) then do
      operator "["
      parseTypeParams fuel
    else pure []
  let isAlias ← operator? "="
  return .type ⟨doc, name, params, isAlias, ← parseType fuel⟩

/-- Reads expressions; whatever cannot be read is left out. -/
def parseValues : Nat → Reader (List Expr)
  | 0 => failure
  | fuel + 1 => do
    let ls ← get
    match (parseExpr fuel 0).run ls with
    | some (e, rest) =>
      set rest
      if ← operator? "," then return e :: (← parseValues fuel)
      else
        set (skipItem 0 rest)
        return [e]
    | none =>
      set (skipItem 0 ls)
      return [.other]

def parseConstSpec (fuel : Nat) (doc : Option CommentGroup) (iota : Nat) : Reader Decl := do
  let names ← parseNames fuel
  let type ← if ← nextIs startsType then some <$> parseType fuel else pure none
  let values ← if ← operator? "=" then parseValues fuel else pure []
  return .const ⟨doc, names, type, values, iota⟩

def parseVarSpec (fuel : Nat) (doc : Option CommentGroup) : Reader Decl := do
  let names ← parseNames fuel
  let type ← if ← nextIs startsType then some <$> parseType fuel else pure none
  let values ← if ← operator? "=" then parseValues fuel else pure []
  return .var ⟨doc, names, type, values⟩

def importPath (literal : List Char) : String :=
  match literal with
  | '"' :: _ => ((Mark.Literal.quoted literal).bind Utf8.toString?).getD ""
  | _ => String.ofList (literal.drop 1).dropLast

def parseImportSpec : Reader Import := do
  let t ← token
  if t.kind = .string then return ⟨none, importPath t.text⟩
  let path ← token
  return ⟨some (String.ofList t.text), importPath path.text⟩

/-- Reads the members of a group up to its closing parenthesis. Each is read with the comments that
document it and its number. -/
def parseGroup {α : Type} (spec : Option CommentGroup → Nat → Reader α) :
    Nat → (index : Nat) → Reader (List α)
  | 0, _ => failure
  | fuel + 1, index => do
    if ← operator? ")" then return []
    let member ← spec (← doc?) index
    lineEnd
    return member :: (← parseGroup spec fuel (index + 1))

def parseMembers {α : Type} (fuel : Nat) (spec : Option CommentGroup → Nat → Reader α) :
    Reader (List α) := do
  if ← operator? "(" then parseGroup spec fuel 0 else return [← spec none 0]

def receiverOf? (isPointer : Bool) : TypeExpr → Option Receiver
  | .paren inner => receiverOf? isPointer inner
  | .pointer elem => receiverOf? true elem
  | .name id => some ⟨isPointer, id, []⟩
  | .apply generic args => do
    let base ← receiverOf? isPointer generic
    return { base with params := args.filterMap loneName? }
  | _ => none

def parseReceiver (fuel : Nat) : Reader Receiver := do
  match (paramsOf (← parseParams fuel)).1 with
  | .mk _ type :: _ => liftM (receiverOf? false type)
  | [] => failure

/-- Reads a function behind its keyword. Its body is left out. -/
def parseFunc (fuel : Nat) (doc : Option CommentGroup) : Reader Decl := do
  let receiver ← if ← operator? "(" then some <$> parseReceiver fuel else pure none
  let name ← ident
  let params ← if ← operator? "[" then parseTypeParams fuel else pure []
  let sig ← parseSignature fuel
  modify (skipItem 0)
  return .func ⟨doc, name, receiver, params, sig⟩

def parseDecl (fuel : Nat) : Reader (List Import × List Decl) := do
  let doc ← doc?
  let t ← token
  let noted (own : Option CommentGroup) : Option CommentGroup := own.or doc
  match String.ofList t.text with
  | "import" => return (← parseMembers fuel fun _ _ => parseImportSpec, [])
  | "type" => return ([], ← parseMembers fuel fun own _ => parseTypeSpec fuel (noted own))
  | "const" => return ([], ← parseMembers fuel fun own i => parseConstSpec fuel (noted own) i)
  | "var" => return ([], ← parseMembers fuel fun own _ => parseVarSpec fuel (noted own))
  | "func" => return ([], [← parseFunc fuel doc])
  | _ => failure

def parseDecls : Nat → Reader (List Import × List Decl)
  | 0 => failure
  | fuel + 1 => do
    match ← peek? with
    | none => return ([], [])
    | some t =>
      if t.isEnd then
        let _ ← token
        parseDecls fuel
      else
        let (imports, decls) ← parseDecl fuel
        lineEnd
        let (moreImports, moreDecls) ← parseDecls fuel
        return (imports ++ moreImports, decls ++ moreDecls)

/-- Reads a source file. Fails only on files that are no valid Go. -/
def File.read? (path : Bytes) (content : Bytes) : Option File := do
  let source ← (Utf8.glyphs content).mapM Glyph.char?
  let ls := lexemes source
  let fuel := 8 * ls.length + 8
  let parse : Reader File := do
    let doc ← doc?
    keyword "package"
    let name ← ident
    lineEnd
    let (imports, decls) ← parseDecls fuel
    return { path, packageName := name.name, doc, imports, decls, docs := docsFrom {} ls, size := ls.length }
  let (file, _) ← parse.run ls
  return file

end ServiceAnnotations.Source
