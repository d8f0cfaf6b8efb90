import ServiceAnnotations.Registry.Element
import ServiceAnnotations.Types.Subtype

/-! # Packages, types and their members as elements -/
namespace ServiceAnnotations.Elements
open Registry Source ServiceAnnotations.Types

abbrev SourceAnnot := Annot TypeName

abbrev SourceElement := Element TypeName

def dotted (path : String) : Bytes :=
  (Bytes.ofString path).map fun b => if b = 0x2f then 0x2e else b

def pathAndName (p : Program) (id : String) : String × String :=
  match p.package? id with
  | some pkg => (pkg.path, pkg.name)
  | none => (id, lastElement id)

def packageFrame (p : Program) (id : String) : Frame :=
  let (path, name) := pathAndName p id
  ⟨.ok .package, dotted path, name⟩

def isEnum (p : Program) (n : TypeName) : Bool :=
  let type := p.typeOf n
  (match body p p.fuel type with
    | .other (.basic b) => b.isInteger
    | _ => false) &&
  ((n.package.bind p.package?).any fun pkg =>
    pkg.consts.any fun c => c.name.name ≠ "_" && typeOfConst? p p.fuel pkg c = some type)

/-- Interfaces and enumerations are kinds of their own; all other types are classes. -/
def kindOf (p : Program) (n : TypeName) : ElementKind :=
  if (p.interface? n).isSome then .interface else if isEnum p n then .enum else .concrete

/-- The frames around a type: its package. Predeclared types have none. -/
def framesAround (p : Program) (n : TypeName) : List Frame :=
  match n.package with
  | some id => [packageFrame p id]
  | none => []

def typeFrame (p : Program) (n : TypeName) : Frame where
  kind := .ok (kindOf p n)
  qualifiedName := match n.package with
    | some id => (packageFrame p id).qualifiedName ++ Bytes.ofString ("." ++ n.name)
    | none => n.name
  simpleName := n.name

def typeRef (p : Program) (n : TypeName) : TypeRef TypeName where
  token := n
  frame := typeFrame p n
  outer := framesAround p n

/-- What is known of a package. The place is that of the first comment with annotations. -/
structure PackageInfo where
  annots : List SourceAnnot := []
  pos : Place := {}

structure FieldInfo where
  name : String
  pos : Place
  annots : List SourceAnnot
  type : TypeExpr
  scope : Scope

/-- What is known of a type. Only structs whose fields are written out in their declaration have fields
here. -/
structure TypeInfo where
  annots : List SourceAnnot := []
  pos : Place := {}
  fields : List FieldInfo := []

/-- What is known of all packages that were looked at. -/
structure Known where
  packages : List (String × PackageInfo) := []
  types : List (TypeName × TypeInfo) := []

/-- Puts `f` of the value at a key, or of `new` if there is none. -/
def update {κ α : Type} [DecidableEq κ] (k : κ) (new : α) (f : α → α) : List (κ × α) → List (κ × α)
  | [] => [(k, f new)]
  | (j, a) :: rest => if j = k then (j, f a) :: rest else (j, a) :: update k new f rest

namespace Known

def package (k : Known) (id : String) : PackageInfo :=
  ((k.packages.find? (·.1 = id)).map Prod.snd).getD {}

def type (k : Known) (n : TypeName) : TypeInfo :=
  ((k.types.find? (·.1 = n)).map Prod.snd).getD {}

def updatePackage (k : Known) (id : String) (f : PackageInfo → PackageInfo) : Known :=
  { k with packages := update id {} f k.packages }

def updateType (k : Known) (n : TypeName) (f : TypeInfo → TypeInfo) : Known :=
  { k with types := update n {} f k.types }

end Known

def packageElement (p : Program) (k : Known) (id : String) : SourceElement where
  decl := { packageFrame p id with annots := (k.package id).annots }
  outer := []
  token := none
  text := Bytes.ofString ("package " ++ (pathAndName p id).1)
  pos := some (k.package id).pos

def typeElement (p : Program) (k : Known) (n : TypeName) : SourceElement where
  decl := { typeFrame p n with annots := (k.type n).annots }
  outer := match n.package with
    | some id => [(packageElement p k id).decl]
    | none => []
  token := some n
  text := (typeFrame p n).qualifiedName
  pos := some (k.type n).pos

def memberElement (enclosing : SourceElement) (name : String) (pos : Place) (annots : List SourceAnnot) :
    SourceElement :=
  let qualifiedName := enclosing.decl.qualifiedName ++ Bytes.ofString ("." ++ name)
  { decl := { kind := .ok .other, qualifiedName, simpleName := name, annots }
    outer := enclosing.decl :: enclosing.outer
    token := none
    text := qualifiedName
    pos := some pos }

end ServiceAnnotations.Elements
