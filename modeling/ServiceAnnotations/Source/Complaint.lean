import ServiceAnnotations.Source.Token

/-! # Complaints about a text

A text is read to its end even if it is no valid source file. What is wrong with it gives rise to
complaints, at most one after another on the same line, and reading goes on at a token where a statement,
a declaration or the end of an expression is likely to be. -/
namespace ServiceAnnotations.Source

/-- A token as complaints see it: by a name that all literals of a kind and all identifiers share, and as
it is shown. -/
structure Sign where
  name : String
  shown : String
  line : Nat
  column : Nat
  deriving DecidableEq, Repr

def Sign.atEnd (line : Nat) : Sign := ⟨"EOF", "'EOF'", line, 0⟩

def Token.sign (t : Token) : Sign :=
  let text := String.ofList t.text
  let (name, shown) := match t.kind with
    | .word => ("IDENT", text)
    | .number => ("INT", text)
    | .char => ("CHAR", text)
    | .string => ("STRING", text)
    | .lineEnd => (";", "newline")
    | .keyword | .operator | .comment => (text, "'" ++ text ++ "'")
  ⟨name, shown, t.spot.line, t.spot.column⟩

/-- The signs of a text that ends with a line end. The end of the text counts to its last line. -/
def signs (source : List Char) : List Sign :=
  ((tokens source).filter (·.kind ≠ .comment)).map Token.sign ++
    [.atEnd ((source.filter (· = '\n')).length)]

structure Complaint where
  line : Nat
  column : Nat
  message : String
  deriving DecidableEq, Repr

def Complaint.le (a b : Complaint) : Bool :=
  a.line < b.line || (a.line = b.line && a.column ≤ b.column)

/-- Where reading stands. -/
structure Reading where
  rest : List Sign
  /-- The number of the next sign. -/
  position : Nat := 1
  /-- The complaints so far, last one first. -/
  complaints : List Complaint := []
  /-- Where reading went on last, and how often it did so without getting further. -/
  resumed : Nat := 0
  repeats : Nat := 0

/-- A part of reading. It ends early if there are too many complaints. -/
abbrev Survey := ExceptT Unit (StateM Reading)

def maxComplaints : Nat := 11

namespace Survey

def current : Survey Sign := return (← get).rest.headD (.atEnd 0)

def sees (name : String) : Survey Bool := return (← current).name = name

def seesAny (names : List String) : Survey Bool := return names.contains (← current).name

/-- Goes on to the sign after the next one. There is nothing after the end. -/
def next : Survey Unit := modify fun r =>
  match r.rest with
  | _ :: b :: rest => { r with rest := b :: rest, position := r.position + 1 }
  | _ => r

/-- Complains about a sign, unless the last complaint is about its line. -/
def complain (sign : Sign) (message : String) : Survey Unit := do
  let complaints := (← get).complaints
  if (complaints.head?.map Complaint.line) = some sign.line then return
  if maxComplaints ≤ complaints.length then throw ()
  modify fun r => { r with complaints := ⟨sign.line, sign.column, message⟩ :: complaints }

/-- Complains that something else was expected in place of the next sign. -/
def missing (what : String) : Survey Unit := do
  let sign ← current
  complain sign ("expected " ++ what ++ ", found " ++ sign.shown)

def expect (name : String) : Survey Unit := do
  if !(← sees name) then missing ("'" ++ name ++ "'")
  next

def pass (name : String) : Survey Bool := do
  if ← sees name then
    next
    return true
  else return false

/-- The signs from the first one on that has one of the names and is a place to resume at. The same place
is resumed at ten times at most. -/
def resumeFrom (names : List String) : List Sign → (position resumed repeats : Nat) →
    List Sign × Nat × Nat × Nat
  | [], position, resumed, repeats => ([], position, resumed, repeats)
  | sign :: rest, position, resumed, repeats =>
    if rest.isEmpty then (sign :: rest, position, resumed, repeats)
    else if names.contains sign.name && position = resumed && repeats < 10 then
      (sign :: rest, position, resumed, repeats + 1)
    else if names.contains sign.name && resumed < position then (sign :: rest, position, position, 0)
    else resumeFrom names rest (position + 1) resumed repeats

def resumeAt (names : List String) : Survey Unit := modify fun r =>
  let (rest, position, resumed, repeats) := resumeFrom names r.rest r.position r.resumed r.repeats
  { r with rest, position, resumed, repeats }

/-- Names of signs that start a statement. -/
def statementStarts : List String :=
  ["break", "const", "continue", "defer", "fallthrough", "for", "go", "goto", "if", "return", "select",
   "switch", "type", "var"]

def declarationStarts : List String := ["import", "const", "type", "var"]

def expressionEnds : List String := [",", ":", ";", ")", "]", "\x7d"]

/-- Goes past the end of an item, which may be missing before a closing bracket. -/
def itemEnd : Survey Unit := do
  if ← seesAny [")", "\x7d"] then return
  if ← sees ";" then next
  else if ← sees "," then
    missing "';'"
    next
  else
    missing "';'"
    resumeAt statementStarts

/-- Whether a list goes on, up to the closing sign. What is not the closing sign counts as a comma. -/
def goesOn (context closing : String) : Survey Bool := do
  let sign ← current
  if sign.name = "," then return true
  if sign.name = closing then return false
  let newline := if sign.shown = "newline" then " before newline" else ""
  complain sign ("missing ','" ++ newline ++ " in " ++ context)
  return true

def close (name context : String) : Survey Unit := do
  let sign ← current
  if sign.shown = "newline" then
    complain sign ("missing ',' before newline in " ++ context)
    next
  expect name

end Survey

/-- Reads a text and returns the complaints about it in the order of the text. -/
def complaintsOf (survey : Survey Unit) (source : List Char) : List Complaint :=
  let (_, r) := survey.run { rest := signs source }
  r.complaints.reverse.mergeSort Complaint.le

end ServiceAnnotations.Source
