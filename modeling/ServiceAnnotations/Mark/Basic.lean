import ServiceAnnotations.Mark.Position

/-! # Annotations as written

A mark is one annotation of a comment: `@Type`, perhaps with arguments in parentheses or braces. -/
namespace ServiceAnnotations.Mark

/-- A name, perhaps qualified by the name of a package. The place is that of its first word. -/
structure Reference where
  package : Option String
  name : String
  pos : Position
  deriving DecidableEq, Repr

def Reference.text (r : Reference) : String :=
  match r.package with
  | none => r.name
  | some p => p ++ "." ++ r.name

/-- The value of a literal. A quoted text whose escapes name no character is `unknown`. -/
inductive Constant
  | bool (value : Bool)
  | int (value : Int)
  | text (value : Bytes)
  | unknown
  deriving DecidableEq, Repr

mutual

/-- A value: a literal, the name of a type, or a list in braces. -/
inductive Expr
  | literal (value : Constant) (pos : Position)
  | ref (name : Reference)
  | list (items : List Item) (pos : Position)

inductive Item
  | mk (key : Option Reference) (value : Expr)

end

namespace Item

def key : Item → Option Reference
  | mk key _ => key

def value : Item → Expr
  | mk _ value => value

end Item

def Expr.pos : Expr → Position
  | literal _ pos => pos
  | ref name => name.pos
  | list _ pos => pos

def Item.pos (i : Item) : Position :=
  match i.key with
  | some key => key.pos
  | none => i.value.pos

end ServiceAnnotations.Mark

namespace ServiceAnnotations

/-- One annotation as written. Without parentheses or braces it has no arguments, which is not the
same as an empty list of them. -/
structure Mark where
  type : Mark.Reference
  args : Option (List Mark.Item)
  pos : Mark.Position

end ServiceAnnotations
