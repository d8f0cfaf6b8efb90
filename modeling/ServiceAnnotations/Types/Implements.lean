import ServiceAnnotations.Types.Resolve

/-! # Which types satisfy an interface -/
namespace ServiceAnnotations.Types

namespace Term

def includes (p : Program) (fuel : Nat) (x : Term) (t : Ty) : Bool :=
  x.type = if x.tilde then (body p fuel t).type else t

def isSubset (p : Program) (fuel : Nat) (x y : Term) : Bool :=
  let ux := if y.tilde then (body p fuel x.type).type else x.type
  let uy := if x.tilde then (body p fuel y.type).type else y.type
  ux = uy && (!x.tilde || y.tilde)

end Term

namespace TypeSet

def isAll (s : TypeSet) : Bool := s.methods.isEmpty && s.terms.isNone && !s.isComparable

def isEmpty (s : TypeSet) : Bool := s.terms = some []

end TypeSet

def hasMethod (p : Program) (fuel : Nat) (t : Ty) (m : Method) : Bool :=
  match body p fuel t with
  | .interface set => set.methods.any fun n => n.id = m.id && n.sig = m.sig
  | _ => match lookup p fuel t false m.id with
    | some (.method n) => n.sig = m.sig
    | _ => false

/-- Whether a type satisfies an interface. As a constraint, `comparable` is satisfied by every type whose
values can be compared at all. -/
def satisfies (p : Program) (fuel : Nat) (t : Ty) (set : TypeSet) (asConstraint : Bool) : Bool :=
  let own := match body p fuel t with
    | .interface s => some s
    | _ => none
  if set.isAll || own.any TypeSet.isEmpty then true
  else if set.isEmpty then false
  else if !set.methods.all (hasMethod p fuel t) then false
  else
    let comparable := !set.allComparable (body p fuel) fuel || isComparableType (body p fuel) fuel false t ||
      (asConstraint && isComparableType (body p fuel) fuel true t)
    match set.terms with
    | none => comparable
    | some terms =>
      (match own with
        | some s => match s.terms with
          | none => false
          | some xs => xs.all fun x => terms.any (x.isSubset p fuel)
        | none => terms.any (·.includes p fuel t)) && comparable

def implements (p : Program) (fuel : Nat) (t : Ty) (set : TypeSet) : Bool :=
  satisfies p fuel t set false ||
    match body p fuel t with
    | .other (.pointer _) => false
    | _ => satisfies p fuel (.pointer t) set false

end ServiceAnnotations.Types
