import ServiceAnnotations.Types.Basic

/-! # Types whose values can be compared -/
namespace ServiceAnnotations.Types

/-- The types whose values have to be comparable for those of a type with this underlying type to be, or
none if they cannot be. If `dynamic`, values of interface types can be compared; else only if all types of
the interface can, of which there must be some. -/
def comparableParts? (dynamic : Bool) : Body → Option (List (Bool × Ty))
  | .struct fields => some (fields.map fun f => (dynamic, f.type))
  | .interface set =>
    if dynamic then some []
    else match set.terms with
      | none => if set.isComparable then some [] else none
      | some [] => none
      | some terms => some (terms.map fun x => (false, x.type))
  | .other (.array _ elem) => some [(dynamic, elem)]
  | .other (.slice _) | .other (.map _ _) | .other (.func _ _ _) | .other (.param _ _) => none
  | .other _ => some []

/-- Whether values of types can be compared, given underlying types; each type is looked at once. -/
def areComparable (body : Ty → Body) : Nat → (seen todo : List (Bool × Ty)) → Bool
  | 0, _, _ => true
  | _, _, [] => true
  | fuel + 1, seen, part :: todo =>
    if seen.contains part then areComparable body fuel seen todo
    else match comparableParts? part.1 (body part.2) with
      | some parts => areComparable body fuel (part :: seen) (parts ++ todo)
      | none => false

def isComparableType (body : Ty → Body) (fuel : Nat) (dynamic : Bool) (t : Ty) : Bool :=
  areComparable body fuel [] [(dynamic, t)]

namespace TypeSet

def allComparable (body : Ty → Body) (fuel : Nat) (s : TypeSet) : Bool :=
  match s.terms with
  | none => s.isComparable
  | some terms => !terms.isEmpty && terms.all fun x => isComparableType body fuel false x.type

/-- The type set without types that cannot be compared, if it is marked so. The mark is only needed where
there is no union. -/
def onlyComparable (body : Ty → Body) (fuel : Nat) (s : TypeSet) : TypeSet :=
  match s.isComparable, s.terms with
  | true, some terms =>
    { s with
      terms := some (terms.filter fun x => isComparableType body fuel false x.type)
      isComparable := false }
  | _, _ => s

end TypeSet

end ServiceAnnotations.Types
