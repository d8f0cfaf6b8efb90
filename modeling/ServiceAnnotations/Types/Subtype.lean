import ServiceAnnotations.Types.Implements

/-! # Subtypes

A type is a subtype of an interface if it, or a pointer to it, satisfies the interface. A type is a
subtype of a generic interface for some choice of its parameters if that choice can be read off the
methods of the type. -/
namespace ServiceAnnotations.Types

def unifyMethods (p : Program) (fuel : Nat) (owner : TypeName) (t : Ty) :
    List Method → Bindings → Option Bindings
  | [], b => some b
  | m :: ms, b =>
    match lookup p fuel t true m.id with
    | some (.method n) => (unify owner m.sig n.sig b).bind (unifyMethods p fuel owner t ms)
    | _ => none

def inferArgs? (p : Program) (fuel : Nat) (t : Ty) (owner : TypeName) (count : Nat) :
    Option (List Ty) := do
  match body p fuel (.named owner []) with
  | .interface set =>
    let methods := set.methods.mergeSort fun a b => a.id.le b.id
    let bindings ← unifyMethods p fuel owner t methods (List.replicate count none)
    bindings.mapM id
  | _ => none

namespace Program

/-- The declaration of a type; none for predeclared types. -/
def declared? (p : Program) (n : TypeName) : Option DeclaredType :=
  n.package.bind fun id => (p.package? id).bind (·.declared? n)

def typeOf (p : Program) (n : TypeName) : Ty :=
  match n.package with
  | none => (predeclaredType? n.name).getD (.basic .invalid)
  | some "unsafe" => .basic .unsafePointer
  | some _ => resolveMeaning p p.fuel ((p.declared? n).map .declared) []

def isGeneric (p : Program) (n : TypeName) : Bool :=
  (p.declared? n).any fun d => !d.spec.isAlias && !d.spec.params.isEmpty

/-- The types that satisfy the interface with a name; none if it is no interface. -/
def interface? (p : Program) (n : TypeName) : Option TypeSet :=
  match body p p.fuel (p.typeOf n) with
  | .interface set => some set
  | _ => none

def isSubtype (p : Program) (t interface : TypeName) : Bool :=
  if p.isGeneric interface then false
  else match p.interface? interface with
    | some set => implements p p.fuel (p.typeOf t) set
    | none => false

def argsSatisfy (p : Program) (d : DeclaredType) (args : List Ty) : Bool :=
  let names := d.spec.params.map (·.name.name)
  (d.spec.params.zip args).all fun (param, arg) =>
    let set := unionOf p p.fuel { package := d.package, file := d.file, params := names.zip args }
      param.constraint
    satisfies p p.fuel arg set true

def isErasedSubtype (p : Program) (t interface : TypeName) : Bool :=
  match p.declared? interface with
  | some d =>
    if !p.isGeneric interface then p.isSubtype t interface
    else if p.isGeneric t then false
    else match inferArgs? p p.fuel (p.typeOf t) interface d.spec.params.length with
      | some args =>
        p.argsSatisfy d args && match body p p.fuel (.named interface args) with
          | .interface set => implements p p.fuel (p.typeOf t) set
          | _ => false
      | none => false
  | none => p.isSubtype t interface

end Program
end ServiceAnnotations.Types
