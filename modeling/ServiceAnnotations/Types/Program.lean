import ServiceAnnotations.Types.Constant

/-! # Packages and what their names mean -/
namespace ServiceAnnotations.Types
open Source

/-- A package: its source files, and which packages its imports stand for. Packages with the same path
may differ, as when one has test files on top; the id tells them apart. -/
structure Package where
  id : String
  path : String
  name : String
  /-- The directory of the files. -/
  dir : Bytes
  files : List File
  /-- Ids of imported packages, by path; a path that is not listed is its own id. -/
  imports : List (String × String) := []

def Package.importId (pkg : Package) (path : String) : String :=
  ((pkg.imports.find? (·.1 = path)).map Prod.snd).getD path

structure DeclName where
  package : String
  name : String
  deriving DecidableEq, Repr

/-- What was found out about declared names and need not be found out again. -/
structure Findings where
  consts : List (DeclName × ConstType × ConstValue) := []
  vars : List (DeclName × Ty) := []
  /-- Underlying types of declared types, at their own parameters. -/
  bodies : List (TypeName × Body) := []

namespace Findings

def const? (f : Findings) (n : DeclName) : Option (ConstType × ConstValue) :=
  (f.consts.find? (·.1 = n)).map Prod.snd

def var? (f : Findings) (n : DeclName) : Option Ty := (f.vars.find? (·.1 = n)).map Prod.snd

def body? (f : Findings) (n : TypeName) : Option Body := (f.bodies.find? (·.1 = n)).map Prod.snd

end Findings

/-- The packages that are known. -/
structure Program where
  packages : List Package
  findings : Findings := {}

def lastElement (path : String) : String :=
  String.ofList (path.toList.reverse.takeWhile (· != '/')).reverse

namespace Program

def package? (p : Program) (id : String) : Option Package := p.packages.find? (·.id = id)

def imported? (p : Program) (pkg : Package) (path : String) : Option Package :=
  p.package? (pkg.importId path)

/-- The name under which a file knows an imported package; a package whose names are taken over without
qualification has none. -/
def importName (p : Program) (pkg : Package) (i : Import) : Option String :=
  match i.name with
  | none => some (((p.imported? pkg i.path).map Package.name).getD (lastElement i.path))
  | some "." => none
  | some name => some name

def importPath? (p : Program) (pkg : Package) (file : File) (name : String) : Option String :=
  (file.imports.find? fun i => p.importName pkg i = some name).map Import.path

def fuel (p : Program) : Nat :=
  16 * (p.packages.flatMap Package.files).foldl (fun n f => n + f.size) 4

end Program

/-- A declared type and the file that declares it. -/
structure DeclaredType where
  package : Package
  file : File
  spec : TypeSpec

def typeNameIn (pkg : Package) (file : File) (id : Ident) : TypeName where
  package := some pkg.id
  name := id.name
  site := if id.name = "_" then some (file.path, id.spot.offset) else none

def DeclaredType.typeName (d : DeclaredType) : TypeName := typeNameIn d.package d.file d.spec.name

/-- The name that a type consists of, in parentheses or behind one pointer, and whether there is a pointer. -/
def aliasedName? (isPointer : Bool) : TypeExpr → Option (Bool × Ident)
  | .name id => some (isPointer, id)
  | .paren inner => aliasedName? isPointer inner
  | .pointer elem => if isPointer then none else aliasedName? true elem
  | _ => none

namespace Package

/-- The declared types, in the order of the files. -/
def types (pkg : Package) : List DeclaredType :=
  pkg.files.flatMap fun file => file.decls.filterMap fun
    | .type spec => some ⟨pkg, file, spec⟩
    | _ => none

def type? (pkg : Package) (name : String) : Option DeclaredType :=
  pkg.types.find? (·.spec.name.name = name)

def declared? (pkg : Package) (n : TypeName) : Option DeclaredType :=
  pkg.types.find? fun d => d.spec.name.name = n.name && d.typeName = n

/-- What a name stands for in a receiver: the name that aliases lead to from it, and whether there is a pointer. A
pointer to a pointer leads nowhere. -/
def receiverBase (pkg : Package) : (fuel : Nat) → (isPointer : Bool) → String → Bool × String
  | 0, isPointer, name => (isPointer, name)
  | fuel + 1, isPointer, name =>
    match pkg.type? name with
    | some d => match d.spec.isAlias, aliasedName? isPointer d.spec.body with
      | true, some (isPointer, id) => receiverBase pkg fuel isPointer id.name
      | _, _ => (isPointer, name)
    | none => (isPointer, name)

/-- The type that a method belongs to, and whether it is reached by a pointer. -/
def base (pkg : Package) (r : Receiver) : Bool × String :=
  pkg.receiverBase pkg.types.length r.isPointer r.base.name

/-- The names that lead to a type: its own and those of its aliases. -/
def namesFor (pkg : Package) (typeName : String) : List String :=
  let aliases := (pkg.types.filter (·.spec.isAlias)).map (·.spec.name.name)
  typeName :: aliases.filter fun name => (pkg.receiverBase pkg.types.length false name).2 = typeName

def methods (pkg : Package) (typeName : String) : List (File × FuncSpec × Receiver) :=
  let names := pkg.namesFor typeName
  pkg.files.flatMap fun file => file.decls.filterMap fun
    | .func spec => match spec.receiver with
      | some r => if names.contains r.base.name then some (file, spec, r) else none
      | none => none
    | _ => none

end Package

/-- A constant: where it is declared, with which type and value, and its number in its group. -/
structure ConstEntry where
  file : File
  name : Ident
  type : Option TypeExpr
  value : Option Expr
  iota : Nat

/-- The constants of declarations. A declaration without type and values repeats the one before. -/
def constEntries (file : File) :
    (before : Option TypeExpr × List Expr) → List Decl → List ConstEntry
  | _, [] => []
  | before, .const spec :: rest =>
    let now := if spec.type.isNone && spec.values.isEmpty then before else (spec.type, spec.values)
    spec.names.zipIdx.map (fun (name, i) => ⟨file, name, now.1, now.2[i]?, spec.iota⟩) ++
      constEntries file now rest
  | before, _ :: rest => constEntries file before rest

def Package.consts (pkg : Package) : List ConstEntry :=
  pkg.files.flatMap fun file => constEntries file (none, []) file.decls

inductive ObjectKind | type | const | var | func
  deriving DecidableEq, Repr

structure Object where
  kind : ObjectKind
  name : String
  place : Place

/-- The package-level names that a file declares. Methods, initialisers and blank names are none. -/
def File.objects (file : File) : List Object :=
  let object (kind : ObjectKind) (id : Ident) : Object := ⟨kind, id.name, id.spot.inFile file.path⟩
  let all := file.decls.flatMap fun
    | .type spec => [object .type spec.name]
    | .const spec => spec.names.map (object .const)
    | .var spec => spec.names.map (object .var)
    | .func spec =>
      if spec.receiver.isSome || spec.name.name = "init" then [] else [object .func spec.name]
  all.filter (·.name ≠ "_")

def Package.object? (pkg : Package) (name : String) : Option Object :=
  (pkg.files.flatMap File.objects).find? (·.name = name)

def predeclaredBasic? : String → Option Basic
  | "bool" => some .bool
  | "int" => some .int
  | "int8" => some .int8
  | "int16" => some .int16
  | "int32" | "rune" => some .int32
  | "int64" => some .int64
  | "uint" => some .uint
  | "uint8" | "byte" => some .uint8
  | "uint16" => some .uint16
  | "uint32" => some .uint32
  | "uint64" => some .uint64
  | "uintptr" => some .uintptr
  | "float32" => some .float32
  | "float64" => some .float64
  | "complex64" => some .complex64
  | "complex128" => some .complex128
  | "string" => some .string
  | _ => none

def predeclaredType? (name : String) : Option Ty :=
  match name with
  | "error" | "comparable" => some (.named (.predeclared name) [])
  | "any" => some (Body.interface {}).type
  | _ => (predeclaredBasic? name).map .basic

/-- Predeclared names that stand for no type. -/
def predeclaredValues : List String :=
  ["true", "false", "iota", "nil", "append", "cap", "clear", "close", "complex", "copy", "delete",
   "imag", "len", "make", "max", "min", "new", "panic", "print", "println", "real", "recover"]

def predeclaredSet? : String → Option TypeSet
  | "error" =>
    some { methods := [⟨⟨"Error", none⟩, .func [] [.basic .string] false, false, none⟩] }
  | "comparable" => some { isComparable := true }
  | _ => none

end ServiceAnnotations.Types
