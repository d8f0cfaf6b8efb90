import ServiceAnnotations.Settings.Document
import ServiceAnnotations.Text.Attached
import ServiceAnnotations.Text.Blank

/-! # Texts with expressions in them

A template is read as a list of pieces: literal text, expressions and directives. Marks at the ends of
expressions and directives take white space off the literal text beside them. -/
namespace ServiceAnnotations.Settings
open Text

inductive Directive
  | value (e : Expr)
  | ifStart (condition : Expr)
  | otherwise
  | ifEnd
  | forStart (key : Option String) (value : String) (source : Expr)
  | forEnd

/-- A piece of a template. -/
inductive Piece
  | literal (cs : List Char)
  /-- A directive, and whether white space before and after it is left out. -/
  | directive (d : Directive) (trimsBefore trimsAfter : Bool)

namespace Template

def trimEnd (cs : List Char) : List Char := (cs.reverse.dropWhile isBlank).reverse

/-- Takes off the white space that directives ask for. `trims` tells whether the piece before asks for
it. -/
def trimPieces : (trims : Bool) → List Piece → List Piece
  | _, [] => []
  | trims, .literal cs :: rest =>
    let cs := if trims then cs.dropWhile isBlank else cs
    let cs := match rest with
      | .directive _ true _ :: _ => trimEnd cs
      | _ => cs
    .literal cs :: trimPieces false rest
  | _, .directive d before after :: rest => .directive d before after :: trimPieces after rest

/-- How many blanks a line starts with, given its first piece; none for a line of blanks only. -/
def indentOf : Piece → Option Nat
  | .literal cs =>
    let blanks := cs.takeWhile isBlank
    if blanks.length = cs.length && cs.getLast? = some '\n' then none else some blanks.length
  | .directive _ _ _ => some 0

/-- The indents of the lines that start at a piece, where `isStart` tells whether the next piece starts a
line. -/
def indents : (isStart : Bool) → List Piece → List Nat
  | _, [] => []
  | isStart, p :: rest =>
    let endsLine := match p with
      | .literal cs => cs.getLast? = some '\n'
      | _ => false
    (if isStart then (indentOf p).toList else []) ++ indents endsLine rest

/-- Takes a number of blanks off the start of a line, with the marks on the last one. -/
def dropBlanks (n : Nat) (cs : List Char) : List Char :=
  let rest := cs.drop n
  match (cs.take n).getLast? with
  | some c => if isControlBlank c then rest else rest.dropWhile isAttached
  | none => rest

/-- Takes a number of blanks off the start of each line that does not consist of blanks. -/
def dropIndent (n : Nat) : (isStart : Bool) → List Piece → List Piece
  | _, [] => []
  | isStart, .literal cs :: rest =>
    let kept := if isStart && (indentOf (.literal cs)).isSome then dropBlanks n cs else cs
    .literal kept :: dropIndent n (cs.getLast? = some '\n') rest
  | _, p :: rest => p :: dropIndent n false rest

/-- Takes the blanks that all lines have in common off their fronts. -/
def unindent (pieces : List Piece) : List Piece :=
  match indents true pieces with
  | [] => pieces
  | n :: ns => dropIndent (ns.foldl min n) true pieces

inductive Closer | stop | otherwise | ifEnd | forEnd
  deriving DecidableEq, Repr

/-- The parts of a template up to the end of the directive around them, what ended them, and the pieces
that follow. -/
def parts : Nat → List Piece → Option (List Expr × Closer × List Piece)
  | 0, _ => none
  | _, [] => some ([], .stop, [])
  | fuel + 1, .literal cs :: rest => do
    let (more, closer, rest) ← parts fuel rest
    return (.text (String.ofList cs) :: more, closer, rest)
  | fuel + 1, .directive d _ _ :: rest =>
    match d with
    | .otherwise => some ([], .otherwise, rest)
    | .ifEnd => some ([], .ifEnd, rest)
    | .forEnd => some ([], .forEnd, rest)
    | .value e => do
      let (more, closer, rest) ← parts fuel rest
      return (e :: more, closer, rest)
    | .ifStart condition => do
      let (yes, closer, rest) ← parts fuel rest
      let (no, closer, rest) ← match closer with
        | .otherwise => parts fuel rest
        | closer => some ([], closer, rest)
      if closer ≠ .ifEnd then none
      else
        let (more, closer, rest) ← parts fuel rest
        return (.conditional condition (.template yes) (.template no) :: more, closer, rest)
    | .forStart key value source => do
      let (each, closer, rest) ← parts fuel rest
      if closer ≠ .forEnd then none
      else
        let (more, closer, rest) ← parts fuel rest
        return (.joined (.forTuple key value source (.template each) (.bool true)) :: more, closer, rest)

def meld : List Piece → List Piece
  | [] => []
  | .literal cs :: rest =>
    match meld rest with
    | .literal ds :: rest => .literal (cs ++ ds) :: rest
    | rest => .literal cs :: rest
  | p :: rest => p :: meld rest

/-- The expression that a template is. One that consists of a single expression has the value of that
expression, of whatever type. -/
def expr? (pieces : List Piece) : Option Expr :=
  match meld (trimPieces false pieces) with
  | [] => some (.template [.text ""])
  | [.directive (.value e) _ _] => some (.enclosed e)
  | pieces => do
    match ← parts (pieces.length + 1) pieces with
    | (parts, .stop, _) => return .template parts
    | _ => none

end Template
end ServiceAnnotations.Settings
