import ServiceAnnotations.Files.Path
import ServiceAnnotations.Mark.Literal
import ServiceAnnotations.Source.Place
import ServiceAnnotations.Text.Letter

/-! # Tokens of Go source files

A file is divided into tokens and comments. A line end counts as a semicolon after a token that can end
a statement. -/
namespace ServiceAnnotations.Source
open Text

/-- Where a part of a file comes from, as a comment tells: a file, a line and a column, which are those of
the byte where the part starts. -/
structure Origin where
  /-- The name of the file as it is written; none for the file that the comment stands in. -/
  file : Option Bytes
  line : Nat
  /-- Zero if the column is not known. -/
  column : Nat
  /-- The line where the part starts. -/
  startLine : Nat
  /-- The offset where the part starts. -/
  start : Nat
  deriving DecidableEq, Repr

/-- A place in one file; column and offset count bytes. -/
structure Spot where
  line : Nat := 1
  column : Nat := 1
  offset : Nat := 0
  /-- Where the part of the file around the spot comes from. -/
  origin : Option Origin := none
  deriving DecidableEq, Repr, Inhabited

namespace Spot

def after (s : Spot) (c : Char) : Spot :=
  if c = '\n' then { s with line := s.line + 1, column := 1, offset := s.offset + c.utf8Size }
  else { s with column := s.column + c.utf8Size, offset := s.offset + c.utf8Size }

def afterAll (s : Spot) (cs : List Char) : Spot := cs.foldl after s

/-- The place of a spot in a file, which is that in the file where it comes from. Only the offset is
always that in the file itself. -/
def inFile (s : Spot) (file : Bytes) : Place :=
  match s.origin with
  | none => ⟨file, s.line, s.column, s.offset⟩
  | some o =>
    let lines := s.line - o.startLine
    let column :=
      if o.column = 0 then 0
      else if lines = 0 then o.column + (s.offset - o.start)
      else s.column
    ⟨(o.file.map (fileBeside file)).getD file, o.line + lines, column, s.offset⟩
where
  /-- The path of a file whose name is given in another file. -/
  fileBeside (file name : Bytes) : Bytes :=
    if name = [] then []
    else if Files.Path.isRooted name then Files.Path.clean name
    else Files.Path.join (file.reverse.dropWhile (· != Files.Path.slash)).reverse name

def beforeNumber? (cs : List Char) : Option (List Char × Nat) :=
  let digits := (cs.reverse.takeWhile (· != ':')).reverse
  if digits.length < cs.length && digits ≠ [] && digits.all Char.isDigit then
    some (cs.take (cs.length - digits.length - 1), digits.foldl (fun n c => n * 10 + (c.toNat - 0x30)) 0)
  else none

def greatestLine : Nat := 0x40000000

/-- The spot `next` after a comment, which may tell where the part that starts there comes from. Without a
name, the file stays the same if a column is told. -/
def following (text : List Char) (next : Spot) : Spot :=
  let isLine (n : Nat) : Bool := 0 < n && n ≤ greatestLine
  let inner := text.drop 2
  let inner := if text.take 2 = ['/', '*'] then inner.take (inner.length - 2) else inner
  if !"line ".toList.isPrefixOf inner then next
  else match beforeNumber? (inner.drop 5) with
    | none => next
    | some (cs, n) =>
      let (name, line, column) := match beforeNumber? cs with
        | some (name, line) => (name, line, some n)
        | none => (cs, n, none)
      if !isLine line || column.any (!isLine ·) then next
      else
        let file := if name = [] && column.isSome then next.origin.bind Origin.file
          else some (Bytes.ofChars name)
        { next with origin := some ⟨file, line, column.getD 0, next.line, next.offset⟩ }

end Spot

inductive TokenKind | word | keyword | number | char | string | operator | lineEnd | comment
  deriving DecidableEq, Repr

structure Token where
  kind : TokenKind
  text : List Char
  spot : Spot
  deriving DecidableEq, Repr

namespace Token

def isOperator (t : Token) (s : String) : Bool := t.kind = .operator && t.text = s.toList

def isKeyword (t : Token) (s : String) : Bool := t.kind = .keyword && t.text = s.toList

def isEnd (t : Token) : Bool := t.kind = .lineEnd || t.isOperator ";"

end Token

def keywords : List String :=
  ["break", "case", "chan", "const", "continue", "default", "defer", "else", "fallthrough", "for",
   "func", "go", "goto", "if", "import", "interface", "map", "package", "range", "return", "select",
   "struct", "switch", "type", "var"]

/-- Operators of more than one character, longer ones first. -/
def longOperators : List String :=
  ["<<=", ">>=", "&^=", "...", "&&", "||", "<-", "++", "--", "==", "!=", "<=", ">=", ":=", "+=",
   "-=", "*=", "/=", "%=", "&=", "|=", "^=", "<<", ">>", "&^"]

def operatorLength (cs : List Char) : Nat :=
  match longOperators.find? fun op => op.toList.isPrefixOf cs with
  | some op => op.length
  | none => 1

def quotedLength (quote : Char) : (escaped : Bool) → List Char → Nat
  | _, [] => 0
  | true, _ :: cs => quotedLength quote false cs + 1
  | false, c :: cs =>
    if c = quote then 1
    else if c = '\\' then quotedLength quote true cs + 1
    else quotedLength quote false cs + 1

/-- How many characters follow the opening back quote of a text, closing quote included. -/
def rawLength (cs : List Char) : Nat := (cs.takeWhile (· != '\x60')).length + 1

def digitsLength (isHex : Bool) (cs : List Char) : Nat :=
  (cs.takeWhile fun c => c = '_' || c.isDigit || (isHex && (Mark.Literal.digitValue? c).isSome)).length

/-- How many characters the exponent at the front has, the mark and the sign included. -/
def exponentLength (isHex : Bool) : List Char → Nat
  | c :: cs =>
    if c.toLower = (if isHex then 'p' else 'e') then
      match cs with
      | '+' :: rest | '-' :: rest => digitsLength false rest + 2
      | rest => digitsLength false rest + 1
    else 0
  | [] => 0

/-- How many characters a numeral has: base mark, digits, fraction, exponent and the mark of an imaginary
number. The letter `e` is a digit in a hexadecimal numeral, and its exponent is marked by `p`. -/
def numberLength (cs : List Char) : Nat :=
  let base : Nat := match cs with
    | '0' :: c :: _ => if c.toLower ∈ ['x', 'b', 'o'] then 2 else 0
    | _ => 0
  let isHex := base = 2 && (cs.getD 1 ' ').toLower = 'x'
  let whole := base + digitsLength isHex (cs.drop base)
  let fraction := match cs.drop whole with
    | '.' :: rest => digitsLength isHex rest + 1
    | _ => 0
  let mantissa := whole + fraction
  let number := mantissa + exponentLength isHex (cs.drop mantissa)
  if (cs.drop number).head? = some 'i' then number + 1 else number

/-- How many characters follow the start of a block comment, its end included. -/
def blockLength : List Char → Nat
  | [] => 0
  | '*' :: '/' :: _ => 2
  | _ :: cs => blockLength cs + 1

def tokenAt (c : Char) (cs : List Char) : TokenKind × Nat :=
  if isWordStart c then
    let tail := cs.takeWhile isWordTail
    (if String.ofList (c :: tail) ∈ keywords then .keyword else .word, tail.length + 1)
  else if c.isDigit || (c = '.' && cs.head?.any Char.isDigit) then
    (.number, numberLength (c :: cs))
  else if c = '"' then (.string, quotedLength '"' false cs + 1)
  else if c = '\'' then (.char, quotedLength '\'' false cs + 1)
  else if c = '\x60' then (.string, rawLength cs + 1)
  else (.operator, operatorLength (c :: cs))

def endsStatement (kind : TokenKind) (text : List Char) : Bool :=
  match kind with
  | .word | .number | .char | .string => true
  | .keyword => String.ofList text ∈ ["break", "continue", "fallthrough", "return"]
  | .operator => String.ofList text ∈ ["++", "--", ")", "]", "\x7d"]
  | .lineEnd | .comment => false

/-- A block comment without carriage returns, except where leaving one out would end the comment. -/
def stripReturns : (kept : List Char) → List Char → List Char
  | kept, [] => kept.reverse
  | kept, c :: cs =>
    if c = '\r' && !(2 < kept.length && kept.head? = some '*' && cs.head? = some '/') then
      stripReturns kept cs
    else stripReturns (c :: kept) cs

/-- The tokens and comments of a file. `pending` tells whether a line end counts as a semicolon. -/
def tokensFrom : Nat → Spot → (pending : Bool) → List Char → List Token
  | 0, _, _, _ => []
  | _, spot, pending, [] => if pending then [⟨.lineEnd, [], spot⟩] else []
  | fuel + 1, spot, pending, c :: cs =>
    if c = '\n' then
      let rest := tokensFrom fuel (spot.after c) false cs
      if pending then ⟨.lineEnd, [c], spot⟩ :: rest else rest
    else if c = ' ' || c = '\t' || c = '\r' || c = '\ufeff' then
      tokensFrom fuel (spot.after c) pending cs
    else if c = '/' && cs.head? = some '/' then
      let text := (c :: cs).takeWhile (· != '\n')
      let comment : Token := ⟨.comment, text.filter (· != '\r'), spot⟩
      match (c :: cs).drop text.length with
      | [] => comment :: tokensFrom fuel (spot.afterAll text) pending []
      | lineEnd :: rest =>
        let line := if text.getLast? = some '\r' then text.dropLast else text
        let behind := (spot.afterAll text).after lineEnd
        let next := if spot.column = 1 then Spot.following line behind else behind
        let ended := if pending then [⟨.lineEnd, [lineEnd], spot.afterAll text⟩] else []
        comment :: ended ++ tokensFrom fuel next false rest
    else if c = '/' && cs.head? = some '*' then
      let text := (c :: cs).take (2 + blockLength (cs.drop 1))
      let comment : Token := ⟨.comment, stripReturns [] text, spot⟩
      let after := Spot.following text (spot.afterAll text)
      let rest := (c :: cs).drop text.length
      if pending && text.contains '\n' then
        comment :: ⟨.lineEnd, ['\n'], spot.afterAll (text.takeWhile (· != '\n'))⟩ ::
          tokensFrom fuel after false rest
      else comment :: tokensFrom fuel after pending rest
    else
      let (kind, length) := tokenAt c cs
      let text := (c :: cs).take length
      ⟨kind, text, spot⟩ ::
        tokensFrom fuel (spot.afterAll text) (endsStatement kind text) ((c :: cs).drop length)

def tokens (source : List Char) : List Token := tokensFrom (source.length + 1) {} false source

structure Comment where
  text : List Char
  spot : Spot
  deriving DecidableEq, Repr

def Comment.endLine (c : Comment) : Nat := c.spot.line + c.text.count '\n'

/-- Comments without an empty line between them. -/
abbrev CommentGroup := List Comment

/-- Without the comments that belong to a line of code, which ends on `line`. -/
def dropTrailing (line : Nat) : List Comment → List Comment
  | [] => []
  | c :: cs => if c.spot.line ≤ line then dropTrailing c.endLine cs else c :: cs

def lastGroup : (group : CommentGroup) → (endLine : Nat) → List Comment → CommentGroup × Nat
  | group, endLine, [] => (group, endLine)
  | group, endLine, c :: cs =>
    if c.spot.line ≤ endLine + 1 then lastGroup (group ++ [c]) c.endLine cs
    else lastGroup [c] c.endLine cs

/-- The comments that document a token on `line`: the last group of those before it, if it ends on the
line before and the token in front of it, which stands on `before`, does not share its line. -/
def docOf (before line : Nat) (comments : List Comment) : Option CommentGroup :=
  match dropTrailing before comments with
  | [] => none
  | c :: cs =>
    let (group, endLine) := lastGroup [c] c.endLine cs
    if endLine + 1 = line then some group else none

structure Lexeme where
  token : Token
  doc : Option CommentGroup
  deriving DecidableEq, Repr

/-- Puts comments to the tokens that follow them. The token before stands on line `before`. -/
def attachDocs (before : Nat) (comments : List Comment) : List Token → List Lexeme
  | [] => []
  | t :: ts =>
    if t.kind = .comment then attachDocs before (comments ++ [⟨t.text, t.spot⟩]) ts
    else ⟨t, docOf before t.spot.line comments⟩ :: attachDocs t.spot.line [] ts

def lexemes (source : List Char) : List Lexeme := attachDocs 0 [] (tokens source)

end ServiceAnnotations.Source
