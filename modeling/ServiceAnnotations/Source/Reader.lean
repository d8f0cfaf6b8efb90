import ServiceAnnotations.Source.Tree

/-! # Reading tokens -/
namespace ServiceAnnotations.Source

abbrev Reader := StateT (List Lexeme) Option

namespace Reader

def peek? : Reader (Option Token) := return (← get).head?.map Lexeme.token

/-- Whether the next token satisfies `p`. -/
def nextIs (p : Token → Bool) : Reader Bool := return (← peek?).any p

def nextIsOp (s : String) : Reader Bool := nextIs (·.isOperator s)

def token : Reader Token := do
  match ← get with
  | [] => failure
  | l :: ls =>
    set ls
    return l.token

def operator (s : String) : Reader Unit := do
  let t ← token
  if t.isOperator s then return else failure

def keyword (s : String) : Reader Unit := do
  let t ← token
  if t.isKeyword s then return else failure

def ident : Reader Ident := do
  let t ← token
  if t.kind = .word then return t.ident else failure

def operator? (s : String) : Reader Bool := do
  if ← nextIsOp s then
    let _ ← token
    return true
  else return false

def doc? : Reader (Option CommentGroup) := return (← get).head?.bind Lexeme.doc

/-- Reads a semicolon, which may be missing before a closing bracket and at the end. -/
def lineEnd : Reader Unit := do
  if ← nextIs Token.isEnd then
    let _ ← token
  else match ← peek? with
    | none => return
    | some t => if t.isOperator ")" || t.isOperator "\x7d" then return else failure

end Reader

def opens (t : Token) : Bool := t.isOperator "(" || t.isOperator "[" || t.isOperator "\x7b"

def closes (t : Token) : Bool := t.isOperator ")" || t.isOperator "]" || t.isOperator "\x7d"

/-- The tokens from the end of the present item on: a semicolon or a closing bracket outside the brackets
that the item opens. -/
def skipItem : (depth : Nat) → List Lexeme → List Lexeme
  | _, [] => []
  | depth, l :: ls =>
    if depth = 0 && (l.token.isEnd || closes l.token) then l :: ls
    else if opens l.token then skipItem (depth + 1) ls
    else if closes l.token then skipItem (depth - 1) ls
    else skipItem depth ls

def behindClose : (depth : Nat) → List Lexeme → List Lexeme
  | _, [] => []
  | depth, l :: ls =>
    if opens l.token then behindClose (depth + 1) ls
    else if closes l.token then if depth = 0 then ls else behindClose (depth - 1) ls
    else behindClose depth ls

end ServiceAnnotations.Source
