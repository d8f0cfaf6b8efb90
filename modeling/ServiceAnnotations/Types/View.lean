import ServiceAnnotations.Types.Scope

/-! # A view of the types of a program

Fields and methods can be looked up, and expressions evaluated, as soon as written types can be read. What
that takes is collected here, so that reading an array type can in turn evaluate its length. -/
namespace ServiceAnnotations.Types
open Source

/-- What has to be known of types to look up members and to evaluate expressions. -/
structure TypeView where
  /-- The type that a written type stands for. -/
  resolve : Scope → TypeExpr → Ty
  /-- The underlying type of a type. -/
  body : Ty → Body
  /-- The methods declared for a type, at type arguments. -/
  methods : TypeName → List Ty → List Method
  /-- The types that satisfy a constraint. -/
  constraint : Scope → List Source.Term → TypeSet

namespace TypeView

def basic? (v : TypeView) (t : Ty) : Option Basic :=
  match v.body t with
  | .other (.basic b) => some b
  | _ => none

def pointee? (v : TypeView) (t : Ty) : Option Ty :=
  match v.body t with
  | .other (.pointer elem) => some elem
  | _ => none

end TypeView

end ServiceAnnotations.Types
