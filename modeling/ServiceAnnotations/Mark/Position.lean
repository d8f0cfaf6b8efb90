import ServiceAnnotations.Text.Utf8

/-! # Places in an annotation text -/
namespace ServiceAnnotations.Mark
open Text

/-- A place in a text: line and column count characters from 1, the offset counts bytes from 0. -/
structure Position where
  line : Nat := 1
  column : Nat := 1
  offset : Nat := 0
  deriving DecidableEq, Repr, Inhabited

namespace Position

def start : Position := {}

def after (p : Position) (g : Glyph) : Position :=
  if g = .char '\n' then ⟨p.line + 1, 1, p.offset + g.width⟩
  else ⟨p.line, p.column + 1, p.offset + g.width⟩

def afterAll (p : Position) (gs : List Glyph) : Position := gs.foldl after p

@[simp] theorem afterAll_nil (p : Position) : p.afterAll [] = p := rfl

@[simp] theorem afterAll_cons (p : Position) (g : Glyph) (gs : List Glyph) :
    p.afterAll (g :: gs) = (p.after g).afterAll gs := rfl

theorem afterAll_append (p : Position) (gs hs : List Glyph) :
    p.afterAll (gs ++ hs) = (p.afterAll gs).afterAll hs := by
  simp [afterAll]

theorem offset_after (p : Position) (g : Glyph) : (p.after g).offset = p.offset + g.width := by
  unfold after
  split <;> rfl

end Position
end ServiceAnnotations.Mark
