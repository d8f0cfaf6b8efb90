import ServiceAnnotations.Source.Tree

/-! # Types

Two types are identical exactly if they are equal: names of parameters, places and the way in which an
interface is put together do not show in a type. -/
namespace ServiceAnnotations.Types
open Source (ChanDir)

/-- The name of a declared type. Predeclared types belong to no package. -/
structure TypeName where
  package : Option String
  name : String
  /-- The file and the offset of a blank name, which more than one type may have. -/
  site : Option (Bytes × Nat) := none
  deriving DecidableEq, Repr

namespace TypeName

def predeclared (name : String) : TypeName := { package := none, name }

def member (package name : String) : TypeName := { package := some package, name }

end TypeName

inductive Basic
  | bool | int | int8 | int16 | int32 | int64 | uint | uint8 | uint16 | uint32 | uint64 | uintptr
  | float32 | float64 | complex64 | complex128 | string | unsafePointer | invalid
  deriving DecidableEq, Repr

def Basic.isInteger : Basic → Bool
  | int | int8 | int16 | int32 | int64 | uint | uint8 | uint16 | uint32 | uint64 | uintptr => true
  | _ => false

/-- The name of a field or method. Names that are not exported differ between packages. -/
structure MemberId where
  name : String
  package : Option String
  deriving DecidableEq, Repr

def isExported (name : String) : Bool := name.toList.head?.any Text.isUpperLetter

def MemberId.of (package name : String) : MemberId :=
  ⟨name, if isExported name then none else some package⟩

/-- Order of the methods of an interface: exported ones first, then by name. -/
def MemberId.le (a b : MemberId) : Bool :=
  if a.package.isNone ≠ b.package.isNone then a.package.isNone
  else if a.name ≠ b.name then decide (a.name ≤ b.name)
  else decide (a.package.getD "" ≤ b.package.getD "")

/-- What tells the field of a struct from others, its type apart. -/
structure FieldKey where
  id : MemberId
  isEmbedded : Bool
  tag : Bytes
  deriving DecidableEq, Repr

inductive Ty
  | basic (b : Basic)
  | named (name : TypeName) (args : List Ty)
  /-- A parameter of a generic type. -/
  | param (owner : TypeName) (index : Nat)
  | pointer (elem : Ty)
  | slice (elem : Ty)
  | array (length : Nat) (elem : Ty)
  | map (key value : Ty)
  | chan (dir : ChanDir) (elem : Ty)
  | func (params results : List Ty) (isVariadic : Bool)
  | struct (fields : List FieldKey) (types : List Ty)
  /-- Methods with their signatures, and a union of types or of types with the given underlying ones; no
  union stands for all types. -/
  | interface (methods : List MemberId) (sigs : List Ty) (tildes : Option (List Bool))
      (terms : List Ty) (isComparable : Bool)
  deriving Repr, Inhabited

namespace Ty

mutual

def same : Ty → Ty → Bool
  | basic a, basic b => a = b
  | named m xs, named n ys => m = n && sameAll xs ys
  | param o i, param q j => o = q && i = j
  | pointer x, pointer y => same x y
  | slice x, slice y => same x y
  | array m x, array n y => m = n && same x y
  | map k v, map l w => same k l && same v w
  | chan d x, chan e y => d = e && same x y
  | func ps rs v, func qs ss w => sameAll ps qs && sameAll rs ss && v = w
  | struct fs ts, struct gs us => fs = gs && sameAll ts us
  | interface ms ss ti ts c, interface ns us tj vs d =>
    ms = ns && sameAll ss us && ti = tj && sameAll ts vs && c = d
  | _, _ => false

def sameAll : List Ty → List Ty → Bool
  | [], [] => true
  | x :: xs, y :: ys => same x y && sameAll xs ys
  | _, _ => false

end

mutual

theorem same_iff : ∀ x y : Ty, same x y = true ↔ x = y
  | basic _, y => by cases y <;> simp [same]
  | named _ xs, y => by cases y <;> simp [same, sameAll_iff xs]
  | param _ _, y => by cases y <;> simp [same]
  | pointer x, y => by cases y <;> simp [same, same_iff x]
  | slice x, y => by cases y <;> simp [same, same_iff x]
  | array _ x, y => by cases y <;> simp [same, same_iff x]
  | map k v, y => by cases y <;> simp [same, same_iff k, same_iff v]
  | chan _ x, y => by cases y <;> simp [same, same_iff x]
  | func ps rs _, y => by cases y <;> simp [same, sameAll_iff ps, sameAll_iff rs, and_assoc]
  | struct _ ts, y => by cases y <;> simp [same, sameAll_iff ts]
  | interface _ ss _ ts _, y => by
    cases y <;> simp [same, sameAll_iff ss, sameAll_iff ts, and_assoc]

theorem sameAll_iff : ∀ xs ys : List Ty, sameAll xs ys = true ↔ xs = ys
  | [], ys => by cases ys <;> simp [sameAll]
  | x :: xs, ys => by cases ys <;> simp [sameAll, same_iff x, sameAll_iff xs]

end

instance : DecidableEq Ty := fun x y => decidable_of_iff _ (same_iff x y)

end Ty

/-- A method with its signature. A method of an interface never needs a pointer. -/
structure Method where
  id : MemberId
  sig : Ty
  isPointer : Bool
  place : Option Source.Place
  deriving Repr

/-- A type in a union, or all types that have it as underlying type. -/
structure Term where
  tilde : Bool
  type : Ty
  deriving DecidableEq, Repr

/-- The types that satisfy an interface: those that have its methods and are in its union. -/
structure TypeSet where
  methods : List Method := []
  /-- No union stands for all types. -/
  terms : Option (List Term) := none
  isComparable : Bool := false
  deriving Repr

structure StructField where
  id : MemberId
  isEmbedded : Bool
  tag : Bytes
  type : Ty
  place : Option Source.Place
  deriving Repr

inductive Body
  | struct (fields : List StructField)
  | interface (set : TypeSet)
  | other (type : Ty)
  deriving Repr

instance : Inhabited Body := ⟨.other default⟩

def Body.type : Body → Ty
  | struct fields =>
    .struct (fields.map fun f => ⟨f.id, f.isEmbedded, f.tag⟩) (fields.map StructField.type)
  | interface set =>
    let methods := set.methods.mergeSort fun a b => a.id.le b.id
    .interface (methods.map Method.id) (methods.map Method.sig)
      (set.terms.map fun ts => ts.map Term.tilde) ((set.terms.getD []).map Term.type) set.isComparable
  | other t => t

end ServiceAnnotations.Types
