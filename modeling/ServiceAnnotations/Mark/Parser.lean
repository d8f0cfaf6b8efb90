import ServiceAnnotations.Mark.Basic
import ServiceAnnotations.Mark.Lexer

/-! # Reading annotations

A line end ends an annotation, except within parentheses or braces. -/
namespace ServiceAnnotations.Mark
open Text

inductive Wanted | mark | word | int | lineEnd | value | comma (close : Char)
  deriving DecidableEq, Repr

def Wanted.describe : Wanted → String
  | mark => "\"@\""
  | word => "identifier"
  | int => "int literal"
  | lineEnd => "end-of-line"
  | value => "value"
  | comma close => "\",\" or " ++ Quoted.char close

inductive Fault
  | lexical (error : LexError)
  | unexpected (found : Token) (wanted : Wanted)
  deriving DecidableEq, Repr

def Fault.message : Fault → String
  | lexical e => e.message
  | unexpected found wanted =>
    "syntax error: unexpected " ++ found.describe ++ ", expecting " ++ wanted.describe

/-- A fault and its place, if it has one. -/
structure ParseError where
  pos : Option Position
  fault : Fault
  deriving DecidableEq, Repr

def ParseError.message (e : ParseError) : String :=
  let (line, column) := match e.pos with
    | some p => (p.line, p.column)
    | none => (0, 0)
  "line " ++ toString line ++ ", column " ++ toString column ++ ": " ++ e.fault.message

structure Input where
  tokens : List (Position × Token)
  ending : Lexeme

namespace Input

def skipLineEnds (i : Input) : Input :=
  { i with tokens := i.tokens.dropWhile (·.2 = .endOfLine) }

/-- The next token; an error that ends the text is met when the token is asked for. -/
def peek (i : Input) : Except ParseError (Position × Token) :=
  match i.tokens with
  | t :: _ => .ok t
  | [] => match i.ending with
    | .token pos t => .ok (pos, t)
    | .failure pos e => .error ⟨pos, .lexical e⟩

/-- The input behind the next token; nothing follows the end. -/
def behind (i : Input) : Input := { i with tokens := i.tokens.tail }

end Input

def unexpected {α : Type} (t : Position × Token) (wanted : Wanted) : Except ParseError α :=
  .error ⟨some t.1, .unexpected t.2 wanted⟩

def Input.next (i : Input) (nested : Bool) : Except ParseError ((Position × Token) × Input) := do
  let i := if nested then i.skipLineEnds else i
  let t ← i.peek
  return (t, i)

def parseWord (nested : Bool) (i : Input) : Except ParseError ((Position × String) × Input) := do
  let (t, i) ← i.next nested
  match t.2 with
  | .word name => return ((t.1, name), i.behind)
  | _ => unexpected t .word

def parseReference (nested : Bool) (i : Input) : Except ParseError (Reference × Input) := do
  let ((pos, name), i) ← parseWord nested i
  let (t, i) ← i.next nested
  if t.2 = .rune '.' then
    let ((_, member), i) ← parseWord nested i.behind
    return (⟨some name, member, pos⟩, i)
  else return (⟨none, name, pos⟩, i)

mutual

def parseValue : Nat → Input → Except ParseError (Expr × Input)
  | 0, i => do
    let (t, _) ← i.next true
    unexpected t .value
  | fuel + 1, i => do
    let (t, i) ← i.next true
    match t.2 with
    | .word _ =>
      let (r, i) ← parseReference true i
      return (.ref r, i)
    | .text (some v) => return (.literal (.text v) t.1, i.behind)
    | .text none => return (.literal .unknown t.1, i.behind)
    | .rawText v => return (.literal (.text v) t.1, i.behind)
    | .int n => return (.literal (.int n) t.1, i.behind)
    | .yes => return (.literal (.bool true) t.1, i.behind)
    | .no => return (.literal (.bool false) t.1, i.behind)
    | .rune '-' =>
      let (u, i) ← i.behind.next true
      match u.2 with
      | .int n => return (.literal (.int (-n)) t.1, i.behind)
      | _ => unexpected u .int
    | .rune '\x7b' =>
      let (items, i) ← parseItems '\x7d' fuel i.behind
      return (.list items t.1, i)
    | _ => unexpected t .value

def parseItems (close : Char) : Nat → Input → Except ParseError ((List Item) × Input)
  | 0, i => do
    let (t, _) ← i.next true
    unexpected t .value
  | fuel + 1, i => do
    let (t, i) ← i.next true
    if t.2 = .rune close then return ([], i.behind)
    let (item, i) ← parseItem fuel i
    let (t, i) ← i.next true
    if t.2 = .rune ',' then
      let (items, i) ← parseItems close fuel i.behind
      return (item :: items, i)
    else if t.2 = .rune close then return ([item], i.behind)
    else unexpected t (.comma close)

/-- Reads an item: a value, or an unqualified name as a key, a colon and a value. -/
def parseItem : Nat → Input → Except ParseError (Item × Input)
  | 0, i => do
    let (t, _) ← i.next true
    unexpected t .value
  | fuel + 1, i => do
    let (value, i) ← parseValue fuel i
    match value with
    | .ref ⟨none, name, pos⟩ =>
      let (t, i) ← i.next true
      if t.2 = .rune ':' then
        let (value, i) ← parseValue fuel i.behind
        return (.mk (some ⟨none, name, pos⟩) value, i)
      else return (.mk none value, i)
    | _ => return (.mk none value, i)

end

def parseArgs (fuel : Nat) (i : Input) : Except ParseError (Option (List Item) × Input) := do
  let t ← i.peek
  match t.2 with
  | .rune '(' =>
    let (items, i) ← parseItems ')' fuel i.behind
    return (some items, i)
  | .rune '\x7b' =>
    let (items, i) ← parseItems '\x7d' fuel i.behind
    return (some items, i)
  | _ => return (none, i)

/-- Reads one annotation, which starts at the front, and the end of its line. -/
def parseMark (fuel : Nat) (pos : Position) (i : Input) : Except ParseError (Mark × Input) := do
  let (type, i) ← parseReference false i.behind
  let (args, i) ← parseArgs fuel i
  let t ← i.peek
  match t.2 with
  | .endOfLine | .endOfInput => return (⟨type, args, pos⟩, i.behind)
  | _ => unexpected t .lineEnd

def parseMarks : Nat → Input → Except ParseError (List Mark)
  | 0, _ => .ok []
  | fuel + 1, i => do
    let t ← i.peek
    match t.2 with
    | .endOfInput => return []
    | .endOfLine => parseMarks fuel i.behind
    | .rune '@' =>
      let (mark, i) ← parseMark fuel t.1 i
      return mark :: (← parseMarks fuel i)
    | _ => unexpected t .mark

def parse (b : Bytes) : Except ParseError (List Mark) :=
  let (tokens, ending, _) := (Lexer.ofBytes b).tokens
  parseMarks (3 * tokens.length + 3) ⟨tokens, ending⟩

end ServiceAnnotations.Mark
