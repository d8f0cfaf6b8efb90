import ServiceAnnotations.Text.Bytes

/-! # Types of values of settings files

A tuple has items of different types, a list has items of one type; an object has entries of different
types, a map has entries of one type. -/
namespace ServiceAnnotations.Settings

/-- Types of values. The type of an object lists its keys and their types. -/
inductive Ty
  /-- The type of what could have any type. -/
  | dynamic
  | bool
  | number
  | text
  | tuple (items : List Ty)
  | object (keys : List String) (types : List Ty)
  | list (item : Ty)
  | map (item : Ty)
  deriving Repr, Inhabited

namespace Ty

mutual

def same : Ty → Ty → Bool
  | dynamic, dynamic | bool, bool | number, number | text, text => true
  | tuple xs, tuple ys => sameAll xs ys
  | object ks xs, object ls ys => ks = ls && sameAll xs ys
  | list x, list y => same x y
  | map x, map y => same x y
  | _, _ => false

def sameAll : List Ty → List Ty → Bool
  | [], [] => true
  | x :: xs, y :: ys => same x y && sameAll xs ys
  | _, _ => false

end

mutual

def depth : Ty → Nat
  | tuple items => depths items + 1
  | object _ types => depths types + 1
  | list item | map item => item.depth + 1
  | _ => 0

def depths : List Ty → Nat
  | [] => 0
  | t :: rest => max t.depth (depths rest)

end

def friendlyName : Ty → String
  | dynamic => "dynamic"
  | bool => "bool"
  | number => "number"
  | text => "string"
  | tuple _ => "tuple"
  | object _ _ => "object"
  | list item => "list of " ++ item.friendlyName
  | map item => "map of " ++ item.friendlyName

def isDynamic : Ty → Bool
  | dynamic => true
  | _ => false

def isPrimitive : Ty → Bool
  | bool | number | text => true
  | _ => false

def isTuple : Ty → Bool
  | tuple _ => true
  | _ => false

def isObject : Ty → Bool
  | object _ _ => true
  | _ => false

def isList : Ty → Bool
  | list _ => true
  | _ => false

def isMap : Ty → Bool
  | map _ => true
  | _ => false

def itemTypes : Ty → List Ty
  | tuple items => items
  | object _ types => types
  | list item | map item => [item]
  | _ => []

def keys : Ty → List String
  | object keys _ => keys
  | _ => []

/-- Types in the order in which they are preferred: texts stand for all simple values, lists for tuples
and maps for objects. -/
def preferred (types : List Ty) : List Ty :=
  let rank : Ty → Nat
    | text => 0
    | list _ | map _ => 1
    | dynamic => 3
    | _ => 2
  (List.range 4).flatMap fun n => types.filter (rank · = n)

def columns (rows : List (List Ty)) : List (List Ty) :=
  (List.range ((rows.map List.length).foldl max 0)).map fun i => rows.filterMap (·[i]?)

/-- Whether all types are of one kind, of which there is at least one, or could have any type. -/
def allOf (isKind : Ty → Bool) (types : List Ty) : Bool :=
  types.any isKind && types.all fun t => isKind t || t.isDynamic

def haveOneShape : List Ty → Bool
  | [] => false
  | t :: rest => rest.all fun u => u.keys = t.keys && u.itemTypes.length = t.itemTypes.length

mutual

def mayConvert : Nat → Ty → Ty → Bool
  | 0, _, _ => false
  | fuel + 1, source, target =>
    source.same target || match source, target with
      | _, dynamic => true
      | dynamic, _ => true
      | bool, text | number, text | text, bool | text, number => true
      | tuple xs, tuple ys =>
        xs.length = ys.length && (xs.zip ys).all fun (x, y) => mayConvert fuel x y
      | tuple xs, list y | object _ xs, map y =>
        (itemType? fuel y xs).any fun y => xs.all fun x => mayConvert fuel x y
      | object ks xs, object ls ys =>
        (ls.zip ys).all fun (l, y) => (ks.zip xs).any fun (k, x) => k = l && mayConvert fuel x y
      | map x, object _ ys => ys.all fun y => mayConvert fuel x y
      | list x, list y | map x, map y => mayConvert fuel x y
      | _, _ => false

/-- The type of the items of a list or map that is made of items of given types: the one that is asked
for or, if any type will do, a common one. -/
def itemType? : Nat → Ty → List Ty → Option Ty
  | 0, _, _ => none
  | fuel + 1, asked, types =>
    if !asked.isDynamic || types.isEmpty then some asked
    else match unify? fuel types with
      | some dynamic => if types.all isDynamic then some dynamic else none
      | common => common

/-- The list or map type that tuples or objects can be converted to. -/
def collection? (make : Ty → Ty) : Nat → List Ty → Option Ty
  | 0, _ => none
  | fuel + 1, types => do
    let common := make (← unify? fuel (types.flatMap itemTypes))
    if types.all fun t => mayConvert fuel t common then some common else none

def unify? : Nat → List Ty → Option Ty
  | 0, _ => none
  | fuel + 1, types =>
    let shared (isKind : Ty → Bool) (make : Ty → Ty) : Option Ty :=
      if !types.all isKind then some dynamic
      else (unify? fuel (types.flatMap itemTypes)).map make
    let structured (isKind : Ty → Bool) (make : List Ty → Ty) (loose : Ty → Ty) : Option Ty :=
      if !types.all isKind then some dynamic
      else if haveOneShape types then ((columns (types.map itemTypes)).mapM (unify? fuel)).map make
      else collection? loose fuel types
    -- Tuples beside lists become lists, and objects beside maps become maps.
    let loosened (isStrict isLoose : Ty → Bool) (make : Ty → Ty) : Option Ty :=
      if types.any isLoose && types.all fun t => isLoose t || isStrict t || t.isDynamic then do
        let common ← collection? make fuel (types.filter isStrict)
        let found ← unify? fuel (types.map fun t => if isStrict t then common else t)
        if isLoose found then some found else none
      else none
    if allOf isMap types then shared isMap map
    else if allOf isList types then shared isList list
    else if allOf isObject types then
      structured isObject (object ((types.map keys).headD [])) map
    else if allOf isTuple types then structured isTuple tuple list
    else match (loosened isObject isMap map).or (loosened isTuple isList list) with
      | some t => some t
      | none =>
        if types.any isObject && types.any isTuple then none
        else (preferred types).find? fun want => types.all fun t => mayConvert fuel t want

end

/-- Enough fuel for types of a depth: on each level, some are looked at again in another form. -/
def fuelFor (depth : Nat) : Nat := 4 * depth + 8

def convertsTo (source target : Ty) : Bool :=
  mayConvert (fuelFor (max source.depth target.depth)) source target

def common? (types : List Ty) : Option Ty := unify? (fuelFor (depths types)) types

end Ty
end ServiceAnnotations.Settings
