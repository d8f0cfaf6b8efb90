import ServiceAnnotations.Types.Program

/-! # What names stand for

Names are looked up in the type parameters at hand, the package, the imports of the file and the
predeclared names. -/
namespace ServiceAnnotations.Types
open Source

/-- Where a written type or expression stands. -/
structure Scope where
  package : Package
  file : File
  params : List (String × Ty) := []
  /-- The number of the constant declaration around it. -/
  iota : Nat := 0

inductive Denotation
  | param (t : Ty)
  | type (d : DeclaredType)
  | const (package : Package) (entry : ConstEntry)
  | var (package : Package) (file : File) (spec : VarSpec) (index : Nat)
  | func (package : Package) (file : File) (spec : FuncSpec)
  | predeclared (name : String)
  /-- A name of the package that gives access to memory. -/
  | memory (name : String)

inductive TypeMeaning
  | param (t : Ty)
  | declared (d : DeclaredType)
  | predeclared (t : Ty)

def Denotation.meaning? : Denotation → Option TypeMeaning
  | param t => some (.param t)
  | type d => some (.declared d)
  | predeclared name => (predeclaredType? name).map .predeclared
  | memory name => if name = "Pointer" then some (.predeclared (.basic .unsafePointer)) else none
  | const _ _ | var _ _ _ _ | func _ _ _ => none

namespace Package

def const? (pkg : Package) (name : String) : Option ConstEntry :=
  pkg.consts.find? (·.name.name = name)

def value? (pkg : Package) (name : String) : Option Denotation :=
  pkg.files.findSome? fun file => file.decls.findSome? fun
    | .var spec =>
      (spec.names.zipIdx.find? (·.1.name = name)).map fun (_, i) => .var pkg file spec i
    | .func spec =>
      if spec.receiver.isNone && spec.name.name = name then some (.func pkg file spec) else none
    | _ => none

def denotation? (pkg : Package) (name : String) : Option Denotation :=
  ((pkg.type? name).map .type).or (((pkg.const? name).map (.const pkg)).or (pkg.value? name))

end Package

namespace Program

def denotation? (p : Program) (s : Scope) (name : String) : Option Denotation :=
  match s.params.find? (·.1 = name) with
  | some (_, t) => some (.param t)
  | none =>
    let takenOver := s.file.imports.findSome? fun i =>
      if i.name = some "." && isExported name then
        (p.imported? s.package i.path).bind (·.denotation? name)
      else none
    match (s.package.denotation? name).or takenOver with
    | some d => some d
    | none =>
      if (predeclaredType? name).isSome || predeclaredValues.contains name then some (.predeclared name)
      else none

def memberDenotation? (p : Program) (s : Scope) (package name : String) : Option Denotation :=
  match p.importPath? s.package s.file package with
  | none => none
  | some "unsafe" => some (.memory name)
  | some path => (p.imported? s.package path).bind (·.denotation? name)

def meaning? (p : Program) (s : Scope) (name : String) : Option TypeMeaning :=
  (p.denotation? s name).bind Denotation.meaning?

def memberMeaning? (p : Program) (s : Scope) (package name : String) : Option TypeMeaning :=
  (p.memberDenotation? s package name).bind Denotation.meaning?

end Program

end ServiceAnnotations.Types
