import ServiceAnnotations.Source.Place

/-! # Declarations and their annotations

What a host shows of the program it works on. A declaration is shown with the chain of declarations
around it, from the inside out. Types are identified by tokens of the host. -/
namespace ServiceAnnotations.Registry

/-- Kinds of declaration. A concrete type is neither an interface nor an enumeration; providers are concrete. -/
inductive ElementKind | other | package | concrete | interface | enum
  deriving DecidableEq, Repr

def ElementKind.text : ElementKind → String
  | other => "other"
  | package => "package"
  | concrete => "class"
  | interface => "interface"
  | enum => "enum"

def ElementKind.ofCode? : Int → Option ElementKind
  | 0 => some other
  | 1 => some package
  | 2 => some concrete
  | 3 => some interface
  | 4 => some enum
  | _ => none

def unknownCode (code : Int) : String := "?" ++ toString code ++ "?"

/-- Names and kind of a declaration. A host may break down when asked for the kind; the text is what it
says then. -/
structure Frame where
  kind : Except Bytes ElementKind
  qualifiedName : Bytes
  simpleName : Bytes

/-- A declared type, as annotations name it. -/
structure TypeRef (τ : Type) where
  token : τ
  frame : Frame
  /-- The declarations around it, innermost first. -/
  outer : List Frame

/-- The value of an annotation's element. `nothing` stands for a value of no known form. -/
inductive Value (τ : Type)
  | type (t : TypeRef τ)
  | text (s : Bytes)
  | list (items : List (Value τ))
  | nothing

instance {τ : Type} : Inhabited (Value τ) := ⟨.nothing⟩

/-- An annotation on a declaration. Elements that the source does not give have no value. -/
structure Annot (τ : Type) where
  type : Bytes
  values : List (Bytes × Value τ)
  pos : Option Source.Place

structure Decl (τ : Type) extends Frame where
  annots : List (Annot τ)

/-- A declaration and the chain of declarations around it, innermost first. A declared type has a
token. -/
structure Element (τ : Type) where
  decl : Decl τ
  outer : List (Decl τ)
  token : Option τ
  text : Bytes
  pos : Option Source.Place

variable {τ : Type}

namespace Value

/-- The types a value names, from left to right; none if it holds anything but types. -/
def types? : Value τ → Option (List (TypeRef τ))
  | type t => some [t]
  | list items => typesOf items
  | _ => none
where
  typesOf : List (Value τ) → Option (List (TypeRef τ))
    | [] => some []
    | v :: vs => do return (← types? v) ++ (← typesOf vs)

/-- The texts in a value, from left to right; whatever else it holds is left out. -/
def texts : Value τ → List Bytes
  | text s => [s]
  | list items => textsOf items
  | _ => []
where
  textsOf : List (Value τ) → List Bytes
    | [] => []
    | v :: vs => texts v ++ textsOf vs

end Value

def valueElement : Bytes := "value"

namespace Annot

def value? (a : Annot τ) (name : Bytes) : Option (Value τ) :=
  (a.values.find? (·.1 = name)).map Prod.snd

/-- The types that an annotation names; none if it has no value or its value holds anything else. -/
def interfaces? (a : Annot τ) : Option (List (TypeRef τ)) := (a.value? valueElement).bind Value.types?

def texts (a : Annot τ) : List Bytes := ((a.value? valueElement).map Value.texts).getD []

end Annot

def findAnnot (annots : List (Annot τ)) (type : Bytes) : Option (Annot τ) :=
  annots.find? (·.type = type)

namespace Element

def annots (e : Element τ) : List (Annot τ) := e.decl.annots

def isAnnotatedWith (e : Element τ) (type : Bytes) : Bool := e.annots.any (·.type = type)

def typeRef? (e : Element τ) : Option (TypeRef τ) :=
  e.token.map fun token => ⟨token, e.decl.toFrame, e.outer.map Decl.toFrame⟩

end Element

def binaryNameFrom : List Frame → Bytes → Except Bytes Bytes
  | [], name => .ok name
  | f :: outer, name => do
    if (← f.kind) = .package then
      return if f.qualifiedName = [] then name else f.qualifiedName ++ Bytes.ofString "." ++ name
    else binaryNameFrom outer (f.simpleName ++ Bytes.ofString "$" ++ name)

/-- The name of a type in service files: the package, a dot, and the names of the enclosing types and
the type, with `$` between them. -/
def TypeRef.binaryName (t : TypeRef τ) : Except Bytes Bytes := binaryNameFrom t.outer t.frame.simpleName

end ServiceAnnotations.Registry
