import ServiceAnnotations.Source.Reader

/-! # The grammar of expressions and types -/
namespace ServiceAnnotations.Source
open Reader

def strength (t : Token) : Nat :=
  if t.kind ≠ .operator then 0
  else match String.ofList t.text with
    | "||" => 1
    | "&&" => 2
    | "==" | "!=" | "<" | "<=" | ">" | ">=" => 3
    | "+" | "-" | "|" | "^" => 4
    | "*" | "/" | "%" | "<<" | ">>" | "&" | "&^" => 5
    | _ => 0

def parseNames : Nat → Reader (List Ident)
  | 0 => failure
  | fuel + 1 => do
    let id ← ident
    if ← operator? "," then return id :: (← parseNames fuel) else return [id]

def startsType (t : Token) : Bool :=
  t.kind = .word || t.isOperator "*" || t.isOperator "[" || t.isOperator "(" || t.isOperator "<-" ||
    (t.kind = .keyword &&
      String.ofList t.text ∈ ["map", "chan", "func", "struct", "interface"])

/-- Whether a bracket that opens here holds the length of an array, and so follows a name, and not the
arguments of a generic type: those are followed by the end of the item. -/
def opensArray (ls : List Lexeme) : Bool :=
  match ls with
  | bracket :: next :: rest =>
    if !bracket.token.isOperator "[" then false
    else if next.token.isOperator "]" then true
    else match (behindClose 0 (next :: rest)).head? with
      | none => false
      | some l => !(l.token.isEnd || closes l.token || l.token.isOperator "," ||
          l.token.kind = .string || l.token.isOperator "|")
  | _ => false

/-- A parameter as read: a lone name may turn out to be a type or to share the type that follows. -/
inductive RawParam
  | lone (type : TypeExpr)
  | full (name : Option Ident) (type : TypeExpr) (isVariadic : Bool)

def loneName? : TypeExpr → Option Ident
  | .name id => some id
  | _ => none

def shareTypes : List RawParam → List Param
  | [] => []
  | .full name type _ :: rest => .mk name type :: shareTypes rest
  | .lone t :: rest =>
    let params := shareTypes rest
    match params with
    | .mk _ type :: _ => .mk (loneName? t) type :: params
    | [] => [.mk none t]

/-- Parameters from what was read: either all have names or none has. -/
def paramsOf (raw : List RawParam) : List Param × Bool :=
  let isNamed := raw.any fun
    | .full (some _) _ _ => true
    | _ => false
  let isVariadic := raw.any fun
    | .full _ _ v => v
    | _ => false
  if isNamed then (shareTypes raw, isVariadic)
  else (raw.map fun
    | .lone t => .mk none t
    | .full name t _ => .mk name t, isVariadic)

mutual

/-- Reads an expression whose operators bind stronger than `least`. -/
def parseExpr : Nat → (least : Nat) → Reader Expr
  | 0, _ => failure
  | fuel + 1, least => do
    let first ← parseUnary fuel
    parseOperators fuel least first

def parseOperators : Nat → (least : Nat) → Expr → Reader Expr
  | 0, _, _ => failure
  | fuel + 1, least, a => do
    match ← peek? with
    | none => return a
    | some t =>
      if strength t ≤ least then return a
      let _ ← token
      let b ← parseExpr fuel (strength t)
      parseOperators fuel least (.binary (String.ofList t.text) a b)

def parseUnary : Nat → Reader Expr
  | 0 => failure
  | fuel + 1 => do
    match ← get with
    | first :: rest =>
      let op := String.ofList first.token.text
      let opensChan := op = "<-" && rest.head?.any (·.token.isKeyword "chan")
      if first.token.kind = .operator && op ∈ ["+", "-", "!", "^", "*", "&", "<-", "~"] && !opensChan then
        set rest
        return .unary op (← parseUnary fuel)
      else
        let operand ← parseOperand fuel
        parsePrimary fuel operand
    | [] => failure

/-- Reads a literal, a name, an expression in parentheses or a type that is written like no expression. -/
def parseOperand : Nat → Reader Expr
  | 0 => failure
  | fuel + 1 => do
    match ← peek? with
    | none => failure
    | some t =>
      match t.kind with
      | .number => return .number (← token).text
      | .char => return .char (← token).text
      | .string => return .string (← token).text
      | .word => return .name (← ident)
      | _ =>
        if ← operator? "(" then
          let e ← parseExpr fuel 0
          operator ")"
          return .paren e
        else
          let type ← parseType fuel
          match type with
          | .func sig =>
            if ← operator? "\x7b" then
              modify (behindClose 0)
              return .func sig
            else return .type type
          | _ => return .type type

/-- Reads what follows an operand: members, indices, arguments and the items of a composite value. -/
def parsePrimary : Nat → Expr → Reader Expr
  | 0, _ => failure
  | fuel + 1, e => do
    if ← operator? "." then
      if ← operator? "(" then
        if ← nextIs (·.isKeyword "type") then
          failure
        let type ← parseType fuel
        operator ")"
        parsePrimary fuel (.assertion e type)
      else
        let id ← ident
        parsePrimary fuel (.member e id)
    else if ← operator? "[" then
      let inside ← get
      match (parseExprs fuel).run inside with
      | some (args, l :: rest) =>
        if l.token.isOperator "]" then
          set rest
          parsePrimary fuel (.index e args)
        else
          set (behindClose 0 inside)
          parsePrimary fuel (.part e)
      | _ =>
        set (behindClose 0 inside)
        parsePrimary fuel (.part e)
    else if ← operator? "(" then
      let args ← parseExprs fuel
      let isSpread ← operator? "..."
      let _ ← operator? ","
      operator ")"
      parsePrimary fuel (.call e args isSpread)
    else if (← nextIsOp "\x7b") && e.type?.isSome then
      operator "\x7b"
      let keys ← parseKeys fuel
      parsePrimary fuel (.composite e keys)
    else return e

/-- Reads expressions with commas between them, up to a token that starts none. -/
def parseExprs : Nat → Reader (List Expr)
  | 0 => failure
  | fuel + 1 => do
    if ← nextIs fun t => closes t || t.isOperator ":" then return []
    let e ← parseExpr fuel 0
    if ← operator? "," then return e :: (← parseExprs fuel)
    return [e]

/-- Reads the items of a composite value up to its closing brace, and returns their keys. -/
def parseKeys : Nat → Reader (List (Option Expr))
  | 0 => failure
  | fuel + 1 => do
    if ← operator? "\x7d" then return []
    let first ← parseItem fuel
    let key ← if ← operator? ":" then do
        let _ ← parseItem fuel
        pure (some first)
      else pure none
    if ← operator? "," then return key :: (← parseKeys fuel)
    operator "\x7d"
    return [key]

/-- Reads a value inside a composite value; its type may be left out. -/
def parseItem : Nat → Reader Expr
  | 0 => failure
  | fuel + 1 => do
    if ← operator? "\x7b" then
      let _ ← parseKeys fuel
      return .other
    else parseExpr fuel 0

def parseType : Nat → Reader TypeExpr
  | 0 => failure
  | fuel + 1 => do
    let t ← token
    match t.kind with
    | .word =>
      let id : Ident := t.ident
      let base ← if ← operator? "." then (TypeExpr.member id ·) <$> ident else pure (.name id)
      if ← operator? "[" then return .apply base (← parseTypeArgs fuel)
      else return base
    | .operator =>
      match String.ofList t.text with
      | "*" => return .pointer (← parseType fuel)
      | "(" =>
        let inner ← parseType fuel
        operator ")"
        return .paren inner
      | "[" =>
        if ← operator? "]" then return .slice (← parseType fuel)
        if ← operator? "..." then
          operator "]"
          return .array none (← parseType fuel)
        let length ← parseExpr fuel 0
        operator "]"
        return .array (some length) (← parseType fuel)
      | "<-" =>
        keyword "chan"
        return .chan .receive (← parseType fuel)
      | _ => failure
    | .keyword =>
      match String.ofList t.text with
      | "map" =>
        operator "["
        let key ← parseType fuel
        operator "]"
        return .map key (← parseType fuel)
      | "chan" =>
        if ← operator? "<-" then return .chan .send (← parseType fuel)
        else return .chan .both (← parseType fuel)
      | "func" => return .func (← parseSignature fuel)
      | "struct" =>
        operator "\x7b"
        return .struct (← parseFields fuel)
      | "interface" =>
        operator "\x7b"
        return .interface (← parseItems fuel)
      | _ => failure
    | _ => failure

def parseTypeArgs : Nat → Reader (List TypeExpr)
  | 0 => failure
  | fuel + 1 => do
    if ← operator? "]" then return []
    let t ← parseType fuel
    if ← operator? "," then return t :: (← parseTypeArgs fuel)
    operator "]"
    return [t]

def parseSignature : Nat → Reader Signature
  | 0 => failure
  | fuel + 1 => do
    operator "("
    let (params, isVariadic) := paramsOf (← parseParams fuel)
    if ← operator? "(" then
      let (results, _) := paramsOf (← parseParams fuel)
      return .mk params results isVariadic
    else if ← nextIs startsType then
      let result ← parseType fuel
      return .mk params [.mk none result] isVariadic
    else return .mk params [] isVariadic

def parseParams : Nat → Reader (List RawParam)
  | 0 => failure
  | fuel + 1 => do
    if ← operator? ")" then return []
    let p ← parseParam fuel
    if ← operator? "," then return p :: (← parseParams fuel)
    operator ")"
    return [p]

def parseParam : Nat → Reader RawParam
  | 0 => failure
  | fuel + 1 => do
    if ← operator? "..." then return .full none (← parseType fuel) true
    match ← get with
    | first :: rest =>
      let isName := first.token.kind = .word && match rest.head? with
        | none => false
        | some next =>
          next.token.isOperator "..." || opensArray rest ||
            (startsType next.token && !next.token.isOperator "[")
      if isName then
        let name ← ident
        if ← operator? "..." then return .full (some name) (← parseType fuel) true
        else return .full (some name) (← parseType fuel) false
      else return .lone (← parseType fuel)
    | [] => failure

def parseFields : Nat → Reader (List Field)
  | 0 => failure
  | fuel + 1 => do
    if ← operator? "\x7d" then return []
    let doc ← doc?
    let (names, type) ← parseFieldHead fuel
    let tag ← if ← nextIs (·.kind = .string) then (fun t => some t.text) <$> token else pure none
    lineEnd
    return .mk doc names type tag :: (← parseFields fuel)

/-- Reads the names and the type of a field; an embedded field has no names. -/
def parseFieldHead : Nat → Reader (List Ident × TypeExpr)
  | 0 => failure
  | fuel + 1 => do
    match ← get with
    | first :: rest =>
      let isEmbedded := first.token.kind ≠ .word || match rest.head? with
        | none => true
        | some next =>
          next.token.isEnd || closes next.token || next.token.isOperator "." ||
            next.token.kind = .string || (next.token.isOperator "[" && !opensArray rest)
      if isEmbedded then return ([], ← parseType fuel)
      else
        let names ← parseNames fuel
        return (names, ← parseType fuel)
    | [] => failure

def parseItems : Nat → Reader (List InterfaceItem)
  | 0 => failure
  | fuel + 1 => do
    if ← operator? "\x7d" then return []
    let doc ← doc?
    let isMethod : Bool := match ← get with
      | first :: next :: _ => first.token.kind = .word && next.token.isOperator "("
      | _ => false
    let item ← if isMethod then do
        let name ← ident
        pure (InterfaceItem.method doc name (← parseSignature fuel))
      else InterfaceItem.embed <$> parseTerms fuel
    lineEnd
    return item :: (← parseItems fuel)

def parseTerms : Nat → Reader (List Term)
  | 0 => failure
  | fuel + 1 => do
    let tilde ← operator? "~"
    let term := Term.mk tilde (← parseType fuel)
    if ← operator? "|" then return term :: (← parseTerms fuel) else return [term]

end

end ServiceAnnotations.Source
