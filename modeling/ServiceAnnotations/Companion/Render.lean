import ServiceAnnotations.Companion.Shape
import ServiceAnnotations.Types.Resolve

/-! # From types in source files to types in generated files

Types of other packages are qualified by the package's name, or by the name with a number behind it where
the name is taken by another package. Type arguments are left out. -/
namespace ServiceAnnotations.Companion
open Source ServiceAnnotations.Types

/-- An import of a generated file: the path, the name that stands for the package, and whether that is
the package's own name. -/
structure ImportEntry where
  path : String
  name : String
  isOwnName : Bool
  deriving DecidableEq, Repr

/-- The imports of a generated file so far, in the order of first use. -/
structure Imports where
  /-- The path of the package that the file belongs to. -/
  own : String
  entries : List ImportEntry := []

namespace Imports

def isTaken (i : Imports) (name : String) : Bool := i.entries.any (·.name = name)

/-- The first name that is free: the package's own, or that with the first number that makes it free. -/
def freeName (i : Imports) (name : String) : String :=
  if !i.isTaken name then name
  else
    let numbered := (List.range (i.entries.length + 1)).map fun n => name ++ toString (n + 1)
    (numbered.find? (!i.isTaken ·)).getD name

/-- Imports a package, unless it is imported already or the file belongs to it. -/
def add (i : Imports) (package : String × String) : Imports :=
  if package.1 = i.own || i.entries.any (·.path = package.1) then i
  else
    let free := i.freeName package.2
    { i with entries := i.entries ++ [⟨package.1, free, free = package.2⟩] }

def qualify (i : Imports) (package : Option (String × String)) (name : String) : String :=
  match package.bind fun (path, _) => i.entries.find? (·.path = path) with
  | some e => e.name ++ "." ++ name
  | none => name

/-- The import lines, by path. -/
def lines (i : Imports) : List String :=
  let sorted := i.entries.mergeSort fun a b => decide (Bytes.ofString a.path ≤ Bytes.ofString b.path)
  sorted.map fun e =>
    "import " ++ (if e.isOwnName then "" else e.name ++ " ") ++ Text.Quoted.string e.path

end Imports

/-- A declared type, or a predeclared one. The predeclared error type belongs to no package, and cannot
be written. -/
def shapeOfMeaning? (name : String) : Option TypeMeaning → Option Shape
  | some (.declared d) => some (.name (some (d.package.path, d.package.name)) d.spec.name.name)
  | some (.predeclared (.basic .unsafePointer)) => some (.name (some ("unsafe", "unsafe")) "Pointer")
  | some (.predeclared (.basic .uint8)) => some (.name none "byte")
  | some (.predeclared (.basic .int32)) => some (.name none "rune")
  | some (.predeclared (.basic _)) => some (.name none name)
  | some (.predeclared (.interface _ _ _ _ _)) => some (.interface [])
  | some (.param _) => some (.name none name)
  | _ => none

/-- A channel type as it reads once it is written: an arrow behind `chan` belongs to that `chan`. -/
def chanOf : ChanDir → Shape → Shape
  | .both, .chan .receive elem => .chan .send (chanOf .both elem)
  | dir, elem => .chan dir elem

/-- The items of an interface as they read once they are written: the last embedded name and the first
method's name run together. -/
def joinItems (embeds : List Shape) (methods : List ShapeItem) : List ShapeItem :=
  match embeds.reverse, methods with
  | last :: before, .method none name params results isVariadic :: rest =>
    before.reverse.map .embed ++ .method (some last) name params results isVariadic :: rest
  | _, methods => embeds.map .embed ++ methods

mutual

/-- A type as a generated file writes it; none for a type that cannot be written. -/
def shape? (p : Program) (s : Scope) : TypeExpr → Option Shape
  | .name id => shapeOfMeaning? id.name (p.meaning? s id.name)
  | .member q id => shapeOfMeaning? id.name (p.memberMeaning? s q.name id.name)
  | .apply generic _ => shape? p s generic
  | .pointer elem => return .pointer (← shape? p s elem)
  | .slice elem => return .slice (← shape? p s elem)
  | .array length elem =>
    return .array (lengthOf p (typeView p p.fuel) p.fuel s length) (← shape? p s elem)
  | .map key value => return .map (← shape? p s key) (← shape? p s value)
  | .chan dir elem => return chanOf dir (← shape? p s elem)
  | .func (.mk params results isVariadic) =>
    return .func (← shapeParams? p s params) (← shapeParams? p s results) isVariadic
  | .struct fields => return .struct (← shapeFields? p s fields)
  | .interface items => do
    let methods := (← shapeMethods? p s items).mergeSort fun a b => a.1.le b.1
    return .interface (joinItems (← shapeEmbeds? p s items) (methods.map Prod.snd))
  | .paren inner => shape? p s inner

def shapeParams? (p : Program) (s : Scope) : List Param → Option (List ShapeParam)
  | [] => some []
  | .mk name type :: rest =>
    return .mk (name.map Ident.name) (← shape? p s type) :: (← shapeParams? p s rest)

def shapeFields? (p : Program) (s : Scope) : List Field → Option (List ShapeField)
  | [] => some []
  | .mk _ names type tag :: rest => do
    let type ← shape? p s type
    let fields : List ShapeField := match names with
      | [] => [.mk none type (tagBytes tag)]
      | names => names.map fun id => .mk (some id.name) type (tagBytes tag)
    return fields ++ (← shapeFields? p s rest)

def shapeEmbeds? (p : Program) (s : Scope) : List InterfaceItem → Option (List Shape)
  | [] => some []
  | .embed terms :: rest => return (← shapeTerms? p s terms) ++ (← shapeEmbeds? p s rest)
  | .method _ _ _ :: rest => shapeEmbeds? p s rest

/-- Embedded types. One that is not declared cannot be written. -/
def shapeTerms? (p : Program) (s : Scope) : List Source.Term → Option (List Shape)
  | [] => some []
  | .mk _ type :: rest => do
    match ← shape? p s type with
    | .name (some package) name => return .name (some package) name :: (← shapeTerms? p s rest)
    | _ => none

def shapeMethods? (p : Program) (s : Scope) :
    List InterfaceItem → Option (List (MemberId × ShapeItem))
  | [] => some []
  | .method _ name (.mk params results isVariadic) :: rest => do
    let method := .method none name.name (← shapeParams? p s params) (← shapeParams? p s results)
      isVariadic
    return (.of s.package.path name.name, method) :: (← shapeMethods? p s rest)
  | .embed _ :: rest => shapeMethods? p s rest

end

end ServiceAnnotations.Companion
