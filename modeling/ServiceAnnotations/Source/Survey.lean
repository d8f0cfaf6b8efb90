import ServiceAnnotations.Source.Complaint

/-! # Reading a text that may be no source file

The grammar of source files, read with one sign of lookahead. Wherever something is missing, reading
complains and goes on. Bodies of functions are passed over. -/
namespace ServiceAnnotations.Source
namespace Survey

/-- What an expression or type was read as, as far as that tells how to go on. -/
inductive PieceKind | ident | qualified | applied | literalType | group (inner : PieceKind) | other
  deriving DecidableEq, Repr

/-- An expression or type and the sign where it starts. -/
structure Piece where
  kind : PieceKind
  start : Sign
  deriving Repr

def PieceKind.bare : PieceKind → PieceKind
  | group inner => inner.bare
  | kind => kind

def PieceKind.takesItems (kind : PieceKind) : Bool :=
  match kind.bare with
  | .ident | .qualified | .applied | .literalType => true
  | .group _ | .other => false

structure ReadParam where
  name : Option Sign
  type : Option Sign
  deriving Repr

/-- Complains about parameters of which some have names and some have not. -/
def checkParams (params : List ReadParam) : Survey Unit := do
  let named := (params.filter fun x => x.name.isSome && x.type.isSome).length
  let typed := (params.filter (·.type.isSome)).length
  if named = 0 || named = params.length then return
  let step (state : Bool × Option Sign) (x : ReadParam) : Bool × Option Sign :=
    match x.type, x.name with
    | some t, none => (true, some t)
    | some _, some _ => (true, state.2)
    | none, name => if state.1 then state else (false, name)
  match (params.reverse.foldl step (false, none)).2 with
  | none => return
  | some sign =>
    if named = typed then complain (← current) "missing parameter type"
    else complain sign "missing parameter name"

def ident : Survey Piece := do
  let sign ← current
  expect "IDENT"
  return ⟨.ident, sign⟩

def strengthOf (name : String) : Nat :=
  match name with
  | "||" => 1
  | "&&" => 2
  | "==" | "!=" | "<" | "<=" | ">" | ">=" | "=" => 3
  | "+" | "-" | "|" | "^" => 4
  | "*" | "/" | "%" | "<<" | ">>" | "&" | "&^" => 5
  | _ => 0

/-- Signs that start a type other than a name. -/
def typeStarts : List String :=
  ["*", "<-", "func", "chan", "map", "struct", "interface", "("]

def toClosingBrace : (depth : Nat) → List Sign → (position : Nat) → List Sign × Nat
  | _, [], position => ([], position)
  | depth, sign :: rest, position =>
    if rest.isEmpty then (sign :: rest, position)
    else if sign.name = "\x7b" then toClosingBrace (depth + 1) rest (position + 1)
    else if sign.name = "\x7d" then
      if depth = 0 then (sign :: rest, position) else toClosingBrace (depth - 1) rest (position + 1)
    else toClosingBrace depth rest (position + 1)

def functionBody : Survey Unit := do
  expect "\x7b"
  modify fun r =>
    let (rest, position) := toClosingBrace 0 r.rest r.position
    { r with rest, position }
  expect "\x7d"

def qualifiedName (first : Piece) : Survey Piece := do
  if ← pass "." then
    let _ ← ident
    return ⟨.qualified, first.start⟩
  else return first

mutual

def type? : Nat → Survey (Option Piece)
  | 0 => return none
  | fuel + 1 => do
    let sign ← current
    match sign.name with
    | "IDENT" => return some (← appliedName fuel (← qualifiedName (← ident)))
    | "[" =>
      next
      arrayType fuel
      return some ⟨.literalType, sign⟩
    | "struct" =>
      next
      expect "\x7b"
      fields fuel
      expect "\x7d"
      return some ⟨.literalType, sign⟩
    | "*" =>
      next
      let _ ← type fuel
      return some ⟨.other, sign⟩
    | "func" =>
      functionType fuel
      return some ⟨.other, sign⟩
    | "interface" =>
      next
      expect "\x7b"
      interfaceItems fuel
      expect "\x7d"
      return some ⟨.other, sign⟩
    | "map" =>
      next
      expect "["
      let _ ← type fuel
      expect "]"
      let _ ← type fuel
      return some ⟨.literalType, sign⟩
    | "chan" =>
      next
      let _ ← pass "<-"
      let _ ← type fuel
      return some ⟨.other, sign⟩
    | "<-" =>
      next
      expect "chan"
      let _ ← type fuel
      return some ⟨.other, sign⟩
    | "(" =>
      next
      let inner ← type fuel
      expect ")"
      return some ⟨.group inner.kind, sign⟩
    | _ => return none

def type : Nat → Survey Piece
  | 0 => return ⟨.other, .atEnd 0⟩
  | fuel + 1 => do
    let sign ← current
    match ← type? fuel with
    | some piece => return piece
    | none =>
      missing "type"
      resumeAt expressionEnds
      return ⟨.ident, sign⟩

def arrayType : Nat → Survey Unit
  | 0 => return
  | fuel + 1 => do
    if !(← pass "...") && !(← sees "]") then
      let _ ← expression fuel
    arrayElement fuel

def arrayElement : Nat → Survey Unit
  | 0 => return
  | fuel + 1 => do
    if ← sees "," then
      complain (← current) "unexpected comma; expecting ]"
      next
    expect "]"
    let _ ← type fuel

def appliedName : Nat → Piece → Survey Piece
  | 0, piece => return piece
  | fuel + 1, piece => do
    if ← pass "[" then
      typeArguments fuel
      close "]" "type argument list"
      return ⟨.applied, piece.start⟩
    else return piece

def typeArguments : Nat → Survey Unit
  | 0 => return
  | fuel + 1 => do
    if ← seesAny ["]", "EOF"] then return
    let _ ← type fuel
    if ← goesOn "type argument list" "]" then
      next
      typeArguments fuel

/-- Reads the brackets behind a name: the length of an array type whose name it is, or type arguments.
Returns whether it is the former, and the start of the type. -/
def bracketed : Nat → Piece → Survey (Bool × Sign)
  | 0, name => return (false, name.start)
  | fuel + 1, name => do
    let start ← current
    expect "["
    let count ← if ← sees "]" then pure 0 else expressions fuel
    expect "]"
    if count = 0 then
      let _ ← type fuel
      return (true, start)
    else if count = 1 && (← type? fuel).isSome then return (true, start)
    else return (false, name.start)

def fields : Nat → Survey Unit
  | 0 => return
  | fuel + 1 => do
    if ← seesAny ["IDENT", "*", "("] then
      field fuel
      fields fuel

def field : Nat → Survey Unit
  | 0 => return
  | fuel + 1 => do
    if ← sees "IDENT" then
      let name ← ident
      if ← sees "." then
        let _ ← appliedName fuel (← qualifiedName name)
      else if !(← seesAny ["STRING", ";", "\x7d"]) then
        let isSingle := !(← moreNames fuel)
        if isSingle && (← sees "[") then
          let _ ← bracketed fuel name
        else
          let _ ← type fuel
    else if ← pass "*" then
      embedded fuel
    else
      complain (← current) "cannot parenthesize embedded type"
      next
      let _ ← pass "*"
      let _ ← appliedName fuel (← qualifiedName (← ident))
      let _ ← pass ")"
    let _ ← pass "STRING"
    itemEnd

def embedded : Nat → Survey Unit
  | 0 => return
  | fuel + 1 => do
    if ← sees "(" then
      complain (← current) "cannot parenthesize embedded type"
      next
      let _ ← appliedName fuel (← qualifiedName (← ident))
      let _ ← pass ")"
    else
      let _ ← appliedName fuel (← qualifiedName (← ident))

def moreNames : Nat → Survey Bool
  | 0 => return false
  | fuel + 1 => do
    if ← pass "," then
      let _ ← ident
      let _ ← moreNames fuel
      return true
    else return false

def interfaceItems : Nat → Survey Unit
  | 0 => return
  | fuel + 1 => do
    if ← sees "IDENT" then
      interfaceItem fuel
      itemEnd
      interfaceItems fuel
    else if ← sees "~" then
      unionTerm fuel
      unionTerms fuel
      itemEnd
      interfaceItems fuel
    else if (← type? fuel).isSome then
      unionTerms fuel
      itemEnd
      interfaceItems fuel

def interfaceItem : Nat → Survey Unit
  | 0 => return
  | fuel + 1 => do
    let name ← qualifiedName (← ident)
    if name.kind = .ident && (← sees "(") then
      parameters fuel
      results fuel
    else
      let _ ← appliedName fuel name
      unionTerms fuel

def unionTerms : Nat → Survey Unit
  | 0 => return
  | fuel + 1 => do
    if ← pass "|" then
      unionTerm fuel
      unionTerms fuel

def unionTerm : Nat → Survey Unit
  | 0 => return
  | fuel + 1 => do
    if ← pass "~" then
      let _ ← type fuel
    else if (← type? fuel).isNone then
      missing "~ term or type"
      resumeAt expressionEnds

def functionType : Nat → Survey Unit
  | 0 => return
  | fuel + 1 => do
    expect "func"
    parameters fuel
    results fuel

def parameters : Nat → Survey Unit
  | 0 => return
  | fuel + 1 => do
    expect "("
    checkParams (← parameterList fuel)
    expect ")"

def results : Nat → Survey Unit
  | 0 => return
  | fuel + 1 => do
    if ← sees "(" then parameters fuel
    else
      let _ ← type? fuel

def parameterList : Nat → Survey (List ReadParam)
  | 0 => return []
  | fuel + 1 => do
    if ← seesAny [")", "EOF"] then return []
    let x ← parameter fuel
    let known := if x.name.isSome || x.type.isSome then [x] else []
    if ← goesOn "parameter list" ")" then
      next
      return known ++ (← parameterList fuel)
    else return known

def parameter : Nat → Survey ReadParam
  | 0 => return ⟨none, none⟩
  | fuel + 1 => do
    if ← sees "IDENT" then
      let name ← ident
      if ← sees "[" then
        let (isName, start) ← bracketed fuel name
        return ⟨if isName then some name.start else none, some start⟩
      else if ← sees "..." then
        let start ← current
        next
        let _ ← type fuel
        return ⟨some name.start, some start⟩
      else if ← sees "." then
        let _ ← appliedName fuel (← qualifiedName name)
        return ⟨none, some name.start⟩
      else if ← seesAny ("IDENT" :: typeStarts) then
        let piece ← type fuel
        return ⟨some name.start, some piece.start⟩
      else return ⟨some name.start, none⟩
    else if ← seesAny ("[" :: typeStarts) then
      let piece ← type fuel
      return ⟨none, some piece.start⟩
    else if ← sees "..." then
      let start ← current
      next
      let _ ← type fuel
      return ⟨none, some start⟩
    else
      missing "')'"
      resumeAt expressionEnds
      return ⟨none, none⟩

/-- Reads expressions with commas between them, and returns how many there are. -/
def expressions : Nat → Survey Nat
  | 0 => return 0
  | fuel + 1 => do
    let _ ← expression fuel
    if ← pass "," then
      if ← sees "]" then return 1
      return (← expressions fuel) + 1
    else return 1

def expression : Nat → Survey Piece
  | 0 => return ⟨.other, .atEnd 0⟩
  | fuel + 1 => do
    let first ← unary fuel
    operators fuel 0 first

/-- Reads operators that bind stronger than `least` and their operands, behind a first operand. -/
def operators : Nat → (least : Nat) → Piece → Survey Piece
  | 0, _, piece => return piece
  | fuel + 1, least, piece => do
    let sign ← current
    if strengthOf sign.name ≤ least then return piece
    if sign.name = "=" then missing "'=='"
    next
    let operand ← unary fuel
    let _ ← operators fuel (strengthOf sign.name) operand
    operators fuel least ⟨.other, piece.start⟩

def unary : Nat → Survey Piece
  | 0 => return ⟨.other, .atEnd 0⟩
  | fuel + 1 => do
    let sign ← current
    if ← seesAny ["+", "-", "!", "^", "&", "~", "<-", "*"] then
      next
      let _ ← unary fuel
      return ⟨.other, sign⟩
    else
      let piece ← operand fuel
      primary fuel piece

/-- Reads a literal, a name, an expression in parentheses or a type. -/
def operand : Nat → Survey Piece
  | 0 => return ⟨.other, .atEnd 0⟩
  | fuel + 1 => do
    let sign ← current
    match sign.name with
    | "IDENT" => ident
    | "INT" | "CHAR" | "STRING" =>
      next
      return ⟨.other, sign⟩
    | "(" =>
      next
      let inner ← expression fuel
      expect ")"
      return ⟨.group inner.kind, sign⟩
    | "func" =>
      functionType fuel
      if ← sees "\x7b" then functionBody
      return ⟨.other, sign⟩
    | _ =>
      match ← type? fuel with
      | some piece => return piece
      | none =>
        missing "operand"
        resumeAt statementStarts
        return ⟨.ident, sign⟩

def primary : Nat → Piece → Survey Piece
  | 0, piece => return piece
  | fuel + 1, piece => do
    if ← pass "." then
      if ← sees "IDENT" then next
      else if ← pass "(" then
        if !(← pass "type") then
          let _ ← type fuel
        expect ")"
      else
        missing "selector or type assertion"
        if !(← sees "\x7d") then next
      primary fuel ⟨.qualified, piece.start⟩
    else if ← pass "[" then
      if ← sees "]" then
        missing "operand"
        next
      else
        indices fuel
        expect "]"
      primary fuel ⟨.applied, piece.start⟩
    else if ← pass "(" then
      arguments fuel
      close ")" "argument list"
      primary fuel ⟨.other, piece.start⟩
    else if (← sees "\x7b") && piece.kind.takesItems then
      items fuel
      primary fuel ⟨.other, piece.start⟩
    else return piece

def indices : Nat → Survey Unit
  | 0 => return
  | fuel + 1 => do
    if !(← seesAny [":", ",", "]", "EOF"]) then
      let _ ← expression fuel
    if ← seesAny [":", ","] then
      next
      indices fuel

def arguments : Nat → Survey Unit
  | 0 => return
  | fuel + 1 => do
    if ← seesAny [")", "EOF"] then return
    let _ ← expression fuel
    let isLast ← pass "..."
    if ← goesOn "argument list" ")" then
      next
      if !isLast then arguments fuel

def items : Nat → Survey Unit
  | 0 => return
  | fuel + 1 => do
    expect "\x7b"
    itemList fuel
    close "\x7d" "composite literal"

def itemList : Nat → Survey Unit
  | 0 => return
  | fuel + 1 => do
    if ← seesAny ["\x7d", "EOF"] then return
    item fuel
    if ← pass ":" then item fuel
    if ← goesOn "composite literal" "\x7d" then
      next
      itemList fuel

def item : Nat → Survey Unit
  | 0 => return
  | fuel + 1 => do
    if ← sees "\x7b" then items fuel
    else
      let _ ← expression fuel

end

def values : Nat → Survey Unit
  | 0 => return
  | fuel + 1 => do
    let _ ← expression fuel
    if ← pass "," then values fuel

def importSpec : Survey Unit := do
  if ← sees "IDENT" then next
  else
    let _ ← pass "."
  if !(← pass "STRING") then
    let sign ← current
    if ← seesAny ["INT", "CHAR", "IDENT"] then
      complain sign "import path must be a string"
      next
    else
      complain sign "missing import path; require quoted string"
      resumeAt expressionEnds
  itemEnd

def valueSpec (isConst : Bool) (fuel : Nat) : Survey Unit := do
  let _ ← ident
  let _ ← moreNames fuel
  if isConst then
    if !(← seesAny ["EOF", ";", ")"]) then
      let _ ← type? fuel
      if ← pass "=" then values fuel
  else
    if !(← sees "=") then
      let _ ← type fuel
    if ← pass "=" then values fuel
  itemEnd

def typeSpec (fuel : Nat) : Survey Unit := do
  let _ ← ident
  if ← pass "[" then arrayType fuel
  else
    let _ ← pass "="
    let _ ← type fuel
  itemEnd

def groupMembers (spec : Survey Unit) : Nat → Survey Unit
  | 0 => return
  | fuel + 1 => do
    if ← seesAny [")", "EOF"] then return
    spec
    groupMembers spec fuel

def members (spec : Survey Unit) (fuel : Nat) : Survey Unit := do
  next
  if ← pass "(" then
    groupMembers spec fuel
    expect ")"
    itemEnd
  else spec

def functionDecl (fuel : Nat) : Survey Unit := do
  expect "func"
  if ← sees "(" then parameters fuel
  let _ ← ident
  parameters fuel
  results fuel
  if ← sees "\x7b" then
    functionBody
    itemEnd
  else if ← pass ";" then
    if ← sees "\x7b" then
      complain (← current) "unexpected semicolon or newline before \x7b"
      functionBody
      itemEnd
  else itemEnd

def declaration (fuel : Nat) : Survey Unit := do
  match (← current).name with
  | "import" => members importSpec fuel
  | "const" => members (valueSpec true fuel) fuel
  | "var" => members (valueSpec false fuel) fuel
  | "type" => members (typeSpec fuel) fuel
  | "func" => functionDecl fuel
  | _ =>
    missing "declaration"
    resumeAt declarationStarts

/-- Reads declarations. Imports come first. -/
def declarations (fuel : Nat) : Nat → (afterImports : Bool) → Survey Unit
  | 0, _ => return
  | rounds + 1, afterImports => do
    if ← sees "EOF" then return
    let isImport ← sees "import"
    if isImport && !afterImports then
      complain (← current) "imports must appear before other declarations"
    declaration fuel
    declarations fuel rounds isImport

def file (fuel : Nat) : Survey Unit := do
  expect "package"
  let _ ← ident
  itemEnd
  declarations fuel fuel true

end Survey

/-- What is wrong with the text of a source file, in the order of the text. -/
def complaintsAbout (source : String) : List Complaint :=
  let cs := source.toList
  complaintsOf (Survey.file (8 * cs.length + 8)) cs

def complaintText? (complaints : List Complaint) : Option String :=
  complaints.head?.map fun c =>
    let more := match complaints.length - 1 with
      | 0 => ""
      | n => " (and " ++ toString n ++ " more errors)"
    toString c.line ++ ":" ++ toString c.column ++ ": " ++ c.message ++ more

end ServiceAnnotations.Source
