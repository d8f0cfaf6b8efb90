import ServiceAnnotations.Settings.Document
import ServiceAnnotations.Text.Name

/-! # Reading the smallest parts of settings files -/
namespace ServiceAnnotations.Settings
open Text

abbrev Reader := StateT (List Char) Option

/-- What follows a block comment; none if the comment has no end. -/
def afterComment? : List Char → Option (List Char)
  | [] => none
  | '*' :: '/' :: rest => some rest
  | _ :: rest => afterComment? rest

/-- The text from the next token on. Line ends are tokens only where `lines` is set. -/
def skipBlanks (lines : Bool) : Nat → List Char → List Char
  | 0, cs => cs
  | fuel + 1, cs =>
    match cs with
    | ' ' :: rest | '\t' :: rest => skipBlanks lines fuel rest
    | '#' :: rest => skipBlanks lines fuel (rest.dropWhile (· != '\n'))
    | '/' :: '/' :: rest => skipBlanks lines fuel (rest.dropWhile (· != '\n'))
    | '/' :: '*' :: rest =>
      match afterComment? rest with
      | some rest => skipBlanks lines fuel rest
      | none => cs
    | '\n' :: rest | '\r' :: '\n' :: rest => if lines then cs else skipBlanks lines fuel rest
    | cs => cs

namespace Reader

def blanks (lines : Bool) : Reader Unit := modify fun cs => skipBlanks lines (cs.length + 1) cs

def ahead (lines : Bool) : Reader (List Char) := do
  blanks lines
  get

def skip (n : Nat) : Reader Unit := modify (·.drop n)

def symbol (lines : Bool) (c : Char) : Reader Unit := do
  match ← ahead lines with
  | d :: _ => if c = d then skip 1 else failure
  | [] => failure

/-- Reads a line end; the end of the text counts as one. -/
def lineEnd : Reader Unit := do
  match ← ahead true with
  | [] => pure ()
  | '\n' :: _ => skip 1
  | '\r' :: '\n' :: _ => skip 2
  | _ => failure

def takeWhile (p : Char → Bool) : Reader (List Char) := do
  let cs := (← get).takeWhile p
  skip cs.length
  return cs

def nameAt : List Char → List Char
  | c :: rest => if isNameStart c then c :: rest.takeWhile isNameTail else []
  | [] => []

def name : Reader String := do
  match nameAt (← get) with
  | [] => failure
  | cs =>
    skip cs.length
    return String.ofList cs

def word (lines : Bool) (s : String) : Reader Unit := do
  blanks lines
  let found ← name
  if found = s then return else failure

def nextIsWord (lines : Bool) (s : String) : Reader Bool :=
  return nameAt (← ahead lines) = s.toList

def numberLength : List Char → Nat
  | c :: rest =>
    if c.isDigit || c = '.' then numberLength rest + 1
    else if c = 'e' || c = 'E' then
      match rest with
      | d :: rest =>
        if d.isDigit then numberLength rest + 2
        else if d = '+' || d = '-' then
          match rest with
          | f :: rest => if f.isDigit then numberLength rest + 3 else 0
          | [] => 0
        else 0
      | [] => 0
    else 0
  | [] => 0

/-- Reads the characters of a number. A point at its end does not belong to it. -/
def numberChars : Reader (List Char) := do
  let cs ← get
  let lexeme := ((cs.take (numberLength cs)).reverse.dropWhile (· == '.')).reverse
  skip lexeme.length
  return lexeme

def number : Reader Number := do
  match Number.read? (← numberChars) with
  | some n => return n
  | none => failure

def index : Reader Number := do
  let cs ← numberChars
  match cs.contains '.', Number.read? cs with
  | false, some n => return n
  | _, _ => failure

def hexValue? (c : Char) : Option Nat :=
  if c.isDigit then some (c.toNat - 0x30)
  else if 'a' ≤ c && c ≤ 'f' then some (c.toNat - 0x61 + 10)
  else if 'A' ≤ c && c ≤ 'F' then some (c.toNat - 0x41 + 10)
  else none

def codePoint (digits : Nat) : Reader Char := do
  let cs := (← get).take digits
  skip digits
  let values ← (cs.mapM hexValue? : Option (List Nat))
  if values.length < digits then failure
  let n := values.foldl (fun n v => n * 16 + v) 0
  if n < 0xd800 || (0xdfff < n && n < 0x110000) then return Char.ofNat n else failure

def escape : Reader Char := do
  match ← get with
  | c :: _ =>
    skip 1
    match c with
    | 'n' => return '\n'
    | 'r' => return '\r'
    | 't' => return '\t'
    | '"' => return '"'
    | '\\' => return '\\'
    | 'u' => codePoint 4
    | 'U' => codePoint 8
    | _ => failure
  | [] => failure

/-- Reads the characters of a text in quotes up to its end or to a character that may start something
else. -/
def quotedChars : Nat → Reader (List Char)
  | 0 => failure
  | fuel + 1 => do
    match ← get with
    | c :: _ =>
      if c = '"' || c = '$' || c = '%' || c = '\n' || c = '\r' then return []
      else
        skip 1
        let c ← if c = '\\' then escape else pure c
        return c :: (← quotedChars fuel)
    | [] => return []

/-- Reads the characters of a long text up to the end of the line, which is included, or to a character
that may start something else. -/
def lineChars : Reader (List Char) := do
  let cs ← takeWhile fun c => c != '$' && c != '%' && c != '\n' && c != '\r'
  match ← get with
  | '\n' :: _ =>
    skip 1
    return cs ++ ['\n']
  | '\r' :: '\n' :: _ =>
    skip 2
    return cs ++ ['\r', '\n']
  | '\r' :: _ | [] => failure
  | _ => return cs

/-- Reads a character that may start something in braces but does not: doubled in front of a brace, it
stands for itself. -/
def mark (c : Char) : Reader (List Char) := do
  match ← get with
  | _ :: d :: '\x7b' :: rest =>
    if d = c then
      let trims := rest.head? = some '~'
      skip (if trims then 4 else 3)
      return if trims then [c, '\x7b', '~'] else [c, '\x7b']
    else
      skip 1
      return [c]
  | _ =>
    skip 1
    return [c]

end Reader

end ServiceAnnotations.Settings
