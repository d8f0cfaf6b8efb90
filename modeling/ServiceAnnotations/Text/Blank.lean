import ServiceAnnotations.Text.CharRange
import ServiceAnnotations.Text.Utf8

/-! # White space -/
namespace ServiceAnnotations.Text

/-- Code points from 0x80 on that are white space. -/
def blankRanges : List (Nat × Nat) :=
  [(0x85, 0x85), (0xa0, 0xa0), (0x1680, 0x1680), (0x2000, 0x200a), (0x2028, 0x2029),
   (0x202f, 0x202f), (0x205f, 0x205f), (0x3000, 0x3000)]

def isBlank (c : Char) : Bool :=
  if c.toNat < 0x80 then c.toNat = 0x20 || (9 ≤ c.toNat && c.toNat ≤ 13)
  else inRanges blankRanges c.toNat

/-- A list without the items that satisfy `p` at either end. -/
def trimBy {α : Type} (p : α → Bool) (xs : List α) : List α :=
  ((xs.dropWhile p).reverse.dropWhile p).reverse

def trim (cs : List Char) : List Char := trimBy isBlank cs

def trimBytes (b : Bytes) : Bytes :=
  (trimBy (Glyph.holds isBlank) (Utf8.glyphs b)).flatMap Glyph.bytes

end ServiceAnnotations.Text
