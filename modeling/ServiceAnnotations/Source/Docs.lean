import ServiceAnnotations.Source.Token

/-! # Comments that document something

Declarations, the members of a group of declarations, the fields of structs and the named items of
interfaces can be documented, wherever in a file they stand. -/
namespace ServiceAnnotations.Source

inductive Enclosure | group | struct | interface | other
  deriving DecidableEq, Repr

inductive Announced | nothing | declaration | struct | interface
  deriving DecidableEq, Repr

structure DocWalk where
  /-- The open brackets, innermost first. -/
  nesting : List Enclosure := []
  /-- Whether the next token starts an item of what is enclosed. -/
  atStart : Bool := true
  announced : Announced := .nothing
  /-- Whether the last token is an opening parenthesis. -/
  afterParen : Bool := false

namespace DocWalk

def isDeclKeyword (t : Token) : Bool :=
  t.isKeyword "import" || t.isKeyword "const" || t.isKeyword "type" || t.isKeyword "var"

def isDocumented (w : DocWalk) (t : Token) : Bool :=
  if isDeclKeyword t then !w.afterParen
  else w.atStart && match w.nesting with
    | [] => t.isKeyword "func"
    | .group :: _ => !t.isOperator ")"
    | .struct :: _ => !t.isOperator "\x7d"
    | .interface :: _ => t.kind = .word
    | .other :: _ => false

def step (w : DocWalk) (t : Token) : DocWalk :=
  if t.isOperator "(" then
    { nesting := (if w.announced = .declaration then .group else .other) :: w.nesting, afterParen := true }
  else if t.isOperator "\x7b" then
    let inside := match w.announced with
      | .struct => .struct
      | .interface => .interface
      | _ => .other
    { nesting := inside :: w.nesting }
  else if t.isOperator "[" then { nesting := .other :: w.nesting }
  else if t.isOperator ")" || t.isOperator "\x7d" || t.isOperator "]" then
    { nesting := w.nesting.tail, atStart := false }
  else if t.isEnd then { w with atStart := true, announced := .nothing, afterParen := false }
  else
    let announced :=
      if isDeclKeyword t then .declaration
      else if t.isKeyword "struct" then .struct
      else if t.isKeyword "interface" then .interface
      else .nothing
    { w with atStart := false, announced, afterParen := false }

end DocWalk

def docsFrom (w : DocWalk) : List Lexeme → List CommentGroup
  | [] => []
  | l :: ls =>
    let rest := docsFrom (w.step l.token) ls
    match l.doc with
    | some doc => if w.isDocumented l.token then doc :: rest else rest
    | none => rest

end ServiceAnnotations.Source
