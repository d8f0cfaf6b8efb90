import ServiceAnnotations.Text.Blank
import ServiceAnnotations.Text.ByteMap

/-! # Service files

A service file lists the providers of one interface, one name a line. From `#` on a line is a comment;
white space around a name does not count, and neither do blank lines. -/
namespace ServiceAnnotations.Registry
open Text

def servicesDir : Bytes := "META-INF/services"

def servicePath (interface : Bytes) : Bytes := servicesDir ++ Bytes.ofString "/" ++ interface

def unifyLineEnds : List Char → List Char
  | [] => []
  | '\r' :: '\n' :: cs => '\n' :: unifyLineEnds cs
  | '\r' :: cs => '\n' :: unifyLineEnds cs
  | c :: cs => c :: unifyLineEnds cs

/-- The pieces between line feeds; there is always one. -/
def splitLines : List Char → List (List Char)
  | [] => [[]]
  | c :: cs =>
    if c = '\n' then [] :: splitLines cs
    else match splitLines cs with
      | [] => [[c]]
      | line :: lines => (c :: line) :: lines

def nameOfLine (line : List Char) : List Char := trim (line.takeWhile (· != '#'))

def namesOfText (cs : List Char) : List (List Char) :=
  ((splitLines (unifyLineEnds cs)).map nameOfLine).filter (· ≠ [])

/-- The names that a service file lists; none if its bytes are not valid text. -/
def readNames (content : Bytes) : Option NameSet :=
  ((Utf8.glyphs content).mapM Glyph.char?).map fun cs =>
    NameSet.ofNames ((namesOfText cs).map Bytes.ofChars)

def writeNames (names : List Bytes) : Bytes := names.flatMap (· ++ [0x0a])

/-- The content that a medium with room for `limit` bytes takes, if it takes all of it. -/
def writeNamesWithin (limit : Nat) (names : List Bytes) : Option Bytes :=
  let content := writeNames names
  if content.length ≤ limit then some content else none

end ServiceAnnotations.Registry
