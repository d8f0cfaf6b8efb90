import ServiceAnnotations.Mark.Position
import ServiceAnnotations.Source.Token
import ServiceAnnotations.Text.Blank

/-! # Annotations in comments

The annotations of a comment start on the first line that starts with `@`, and go on to its end. What
comes before is documentation. Where line comments and block comments follow one another, only the last
stretch of one style counts. -/
namespace ServiceAnnotations.Elements
open Source Text

structure CommentLine where
  text : Bytes
  /-- Where the text starts. -/
  pos : Place
  isBlock : Bool
  deriving Repr

def linesFrom (isBlock : Bool) : Place → List Bytes → List CommentLine
  | _, [] => []
  | pos, text :: rest =>
    ⟨text, pos, isBlock⟩ ::
      linesFrom isBlock
        { pos with line := pos.line + 1, column := 1, offset := pos.offset + text.length + 1 } rest

/-- The lines of one comment. -/
def linesOfComment (file : Bytes) (c : Comment) : List CommentLine :=
  let isBlock := c.text.take 2 = ['/', '*']
  let inner := c.text.drop 2
  let inner := if isBlock then inner.take (inner.length - 2) else inner
  let start := c.spot.inFile file
  linesFrom isBlock { start with column := start.column + 2, offset := start.offset + 2 }
    (Bytes.splitAt 0x0a (Bytes.ofChars inner))

/-- The lines of a comment group. -/
def commentLines (file : Bytes) (doc : CommentGroup) : List CommentLine :=
  doc.flatMap (linesOfComment file)

/-- Where the `@` of a line that starts with one stands. -/
def annotStart? (line : Bytes) : Option Nat :=
  let gs := Utf8.glyphs line
  let blanks := gs.takeWhile (Glyph.holds isBlank)
  match gs.drop blanks.length with
  | .char '@' :: _ => some (blanks.flatMap Glyph.bytes).length
  | _ => none

def findAnnotPlace? (file : Bytes) (doc : CommentGroup) : Option Place :=
  (commentLines file doc).findSome? fun l => (annotStart? l.text).map fun n =>
    { l.pos with column := l.pos.column + n, offset := l.pos.offset + n }

/-- The last stretch of lines of one style. -/
def lastStretch (lines : List CommentLine) : List CommentLine :=
  match lines.reverse with
  | [] => []
  | last :: before => ((last :: before).takeWhile (·.isBlock = last.isBlock)).reverse

/-- Where the lines of an annotation text come from, each with the number of bytes before it; the last
entry is for the end of the text. -/
abbrev LineMap := List (Nat × Place)

/-- Entries for lines after the first `size` bytes. -/
def lineMapFrom (size : Nat) : List CommentLine → LineMap
  | [] => []
  | [l] =>
    let n := l.text.length
    [(size, l.pos),
      (size + n + 1, { l.pos with column := l.pos.column + n, offset := l.pos.offset + n })]
  | l :: rest => (size, l.pos) :: lineMapFrom (size + l.text.length + 1) rest

/-- The place in the source file of a place in the annotation text. A line that is not there stands for
the nearest one. -/
def LineMap.adjust (m : LineMap) (line column offset : Int) : Place :=
  let i := min (line - 1).toNat (m.length - 1)
  match m[i]? with
  | none => {}
  | some (start, pos) =>
    { pos with column := pos.column + column - 1, offset := pos.offset + (offset - start) }

/-- The place in the source file of a place in the annotation text, where no place stands for zeros. -/
def LineMap.place (m : LineMap) : Option Mark.Position → Place
  | some p => m.adjust p.line p.column p.offset
  | none => m.adjust 0 0 0

def extract? (file : Bytes) (doc : CommentGroup) : Option (Bytes × LineMap) :=
  match (lastStretch (commentLines file doc)).dropWhile fun l => (annotStart? l.text).isNone with
  | [] => none
  | lines => some (lines.flatMap fun l => l.text ++ [0x0a], lineMapFrom 0 lines)

end ServiceAnnotations.Elements
