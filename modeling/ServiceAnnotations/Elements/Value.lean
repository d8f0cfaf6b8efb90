import ServiceAnnotations.Elements.Comment
import ServiceAnnotations.Elements.Error
import ServiceAnnotations.Elements.Model
import ServiceAnnotations.Text.FirstLetter

/-! # From written annotations to annotations

Names of packages are looked up in the imports of the file, names of types in the package and among the
predeclared names. -/
namespace ServiceAnnotations.Elements
open Registry Source ServiceAnnotations.Types

def modulePath : String := "github.com/jhump/autoserv"

def moduleAnnot (name : String) : Bytes := Bytes.ofString (modulePath ++ "." ++ name)

/-- Where an annotation stands: in a file of a package, and where its lines come from. -/
structure Site where
  program : Program
  scope : Scope
  lines : LineMap

namespace Site

def fail {α : Type} (s : Site) (pos : Mark.Position) (e : AnnotError) : Except Misuse α :=
  .error ⟨s.lines.place (some pos), e⟩

/-- The package with a path among those that the package imports. A package that stands elsewhere than
where it is imported from is not found by the path of the import. -/
def imported? (s : Site) (path : String) : Option Package :=
  (s.scope.package.files.flatMap File.imports).findSome? fun i =>
    (s.program.imported? s.scope.package i.path).filter (·.path = path)

/-- The name that annotations know an import by: the one it is given, or else the package's own. An import
that is only there for its effects counts under the package's own name. -/
def importName (s : Site) (i : Import) : Option String :=
  match i.name with
  | some "." => none
  | none | some "_" => some (((s.imported? i.path).map Package.name).getD (lastElement i.path))
  | some name => some name

/-- The path of the package that the file imports under a name, if there is one. -/
def findImport? (s : Site) (pos : Mark.Position) (name : String) :
    Option String → List Import → Except Misuse (Option String)
  | found, [] => .ok found
  | found, i :: rest =>
    if s.importName i ≠ some name then findImport? s pos name found rest
    else match found with
      | some path =>
        if path ≠ i.path then s.fail pos (.ambiguous name path i.path)
        else findImport? s pos name found rest
      | none => findImport? s pos name (some i.path) rest

def packageOf (s : Site) (r : Mark.Reference) : Except Misuse String :=
  match r.package with
  | none => .ok s.scope.package.path
  | some name => do
    match ← s.findImport? r.pos name none s.scope.file.imports with
    | some path => return path
    | none => if name = "autoserv" then return modulePath else s.fail r.pos (.notImported name)

def packageMember? (pkg : Package) (name : String) : Option (Option TypeName) :=
  (pkg.object? name).map fun o => if o.kind = .type then some (.member pkg.id name) else none

def predeclared? (name : String) : Option (Option TypeName) :=
  if (predeclaredType? name).isSome then some (some (.predeclared name))
  else if predeclaredValues.contains name then some none
  else none

/-- What a name of the package that gives access to memory stands for. -/
def unsafeMember? (name : String) : Option (Option TypeName) :=
  if name = "Pointer" then some (some (.member "unsafe" name))
  else if name ∈ ["Add", "Alignof", "Offsetof", "Sizeof", "Slice", "SliceData", "String", "StringData"]
  then some none
  else none

def typeNamed (s : Site) (r : Mark.Reference) : Except Misuse TypeName := do
  let meaning ← match r.package with
    | none => pure ((packageMember? s.scope.package r.name).or (predeclared? r.name))
    | some name => do
      match ← s.findImport? r.pos name none s.scope.file.imports with
      | none => s.fail r.pos (.notImported name)
      | some path =>
        let member := if path = "unsafe" then unsafeMember? r.name
          else (s.imported? path).bind (packageMember? · r.name)
        pure (if isExported r.name then member else none)
  match meaning with
  | none => s.fail r.pos (.missing r)
  | some none => s.fail r.pos (.notType r)
  | some (some n) => return n

mutual

def value (s : Site) : Mark.Expr → Except Misuse (Value TypeName)
  | .literal (.text b) _ => .ok (.text b)
  | .literal c pos => s.fail pos (.unsupported c)
  | .ref r => (s.typeNamed r).map fun n => .type (typeRef s.program n)
  | .list items _ => (listed s items).map .list

def listed (s : Site) : List Mark.Item → Except Misuse (List (Value TypeName))
  | [] => .ok []
  | .mk (some key) _ :: _ => s.fail key.pos .keyInList
  | .mk none e :: rest => do return (← value s e) :: (← listed s rest)

end

def arguments (s : Site) : (keyed : List (Bytes × Value TypeName)) →
    (unkeyed : List (Value TypeName)) → List Mark.Item →
    Except Misuse (List (Bytes × Value TypeName) × List (Value TypeName))
  | keyed, unkeyed, [] => .ok (keyed, unkeyed)
  | keyed, unkeyed, .mk key e :: rest => do
    let v ← s.value e
    match key with
    | none => s.arguments keyed (unkeyed ++ [v]) rest
    | some key =>
      let name := Text.lowerFirst key.name
      if keyed.any (·.1 = name) then s.fail key.pos (.repeated key.name)
      s.arguments (keyed ++ [(name, v)]) unkeyed rest

/-- The annotation that a mark stands for. Values without keys together are the main value. -/
def annot (s : Site) (m : Mark) : Except Misuse SourceAnnot := do
  let path ← s.packageOf m.type
  let (keyed, unkeyed) ← s.arguments [] [] (m.args.getD [])
  if !keyed.isEmpty && !unkeyed.isEmpty then s.fail m.type.pos (.mixedKeys m.type)
  let values := match unkeyed with
    | [] => keyed
    | [v] => [(valueElement, v)]
    | vs => [(valueElement, .list vs)]
  return { type := Bytes.ofString (path ++ "." ++ m.type.name), values,
           pos := some (s.lines.place (some m.pos)) }

end Site

def annotsOf (p : Program) (s : Scope) (doc : CommentGroup) : Except Misuse (List SourceAnnot) :=
  match extract? s.file.path doc with
  | none => .ok []
  | some (text, lines) =>
    match Mark.parse text with
    | .error e => .error ⟨lines.place e.pos, .unreadable e.fault⟩
    | .ok marks => marks.mapM (Site.annot ⟨p, s, lines⟩)

end ServiceAnnotations.Elements
