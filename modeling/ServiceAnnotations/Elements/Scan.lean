import ServiceAnnotations.Elements.Listing
import ServiceAnnotations.Elements.Value

/-! # The annotated elements of a package

The package comes first if it has annotations, then the declarations of each file in order. The fields
and methods of a type come before the type. Annotations anywhere else are errors. -/
namespace ServiceAnnotations.Elements
open Registry Source ServiceAnnotations.Types

/-- The state of a scan. -/
structure Scan where
  known : Known
  listing : Listing := {}
  /-- The comments of the present file that were looked at for annotations. -/
  processed : List CommentGroup := []

/-- A step of a scan. What it learned before it failed stays known. -/
abbrev ScanStep := ExceptT Misuse (StateM Scan)

namespace Scan

def found (s : Scan) : List Found := s.listing.elements

def add (element : SourceElement) (type : Option TypeName) : ScanStep Unit :=
  if element.annots.isEmpty then pure ()
  else modify fun s => { s with listing := s.listing.add ⟨element, type⟩ }

def know (f : Known → Known) : ScanStep Unit := modify fun s => { s with known := f s.known }

def annots (p : Program) (scope : Scope) : Option CommentGroup → ScanStep (List SourceAnnot)
  | none => pure []
  | some doc => do
    modify fun s => { s with processed := doc :: s.processed }
    liftM (annotsOf p scope doc)

def each {α : Type} (f : α → ScanStep Unit) : List α → ScanStep Unit
  | [] => pure ()
  | a :: rest => do
    f a
    each f rest

def member (p : Program) (scope : Scope) (enclosing : SourceElement) (doc : Option CommentGroup)
    (id : Ident) : ScanStep Unit := do
  let found ← annots p scope doc
  add (memberElement enclosing id.name (id.spot.inFile scope.file.path) found) none

/-- The names of a field and where they stand; an embedded field has the name of its type. -/
def fieldIdents (f : Field) : List Ident :=
  match f.names with
  | [] => [embeddedIdent f.type]
  | names => names

def field (p : Program) (scope : Scope) (n : TypeName) (f : Field) : ScanStep Unit := do
  let found ← annots p scope f.doc
  each (fun id => do
    let pos := id.spot.inFile scope.file.path
    know (·.updateType n fun t => { t with fields := t.fields ++ [⟨id.name, pos, found, f.type, scope⟩] })
    add (memberElement (typeElement p (← get).known n) id.name pos found) none) (fieldIdents f)

def item (p : Program) (scope : Scope) (n : TypeName) : InterfaceItem → ScanStep Unit
  | .method doc name _ => do member p scope (typeElement p (← get).known n) doc name
  | .embed _ => pure ()

def members (p : Program) (scope : Scope) (n : TypeName) : TypeExpr → ScanStep Unit
  | .struct fields => each (field p scope n) fields
  | .interface items => each (item p scope n) items
  | _ => pure ()

def type (p : Program) (scope : Scope) (spec : TypeSpec) : ScanStep Unit := do
  let n := typeNameIn scope.package scope.file spec.name
  let pos := spec.name.spot.inFile scope.file.path
  know (·.updateType n fun t => { t with pos })
  let found ← annots p scope spec.doc
  if !found.isEmpty && spec.isAlias then throw ⟨pos, .onAlias spec.name.name⟩
  know (·.updateType n fun t => { t with annots := found })
  members p scope n spec.body
  add (typeElement p (← get).known n) (some n)

def decl (p : Program) (scope : Scope) (d : Decl) : ScanStep Unit := do
  let known := (← get).known
  let package := packageElement p known scope.package.id
  match d with
  | .type spec => type p scope spec
  | .const spec => each (member p scope package spec.doc) spec.names
  | .var spec => each (member p scope package spec.doc) spec.names
  | .func spec =>
    let enclosing := match spec.receiver with
      | some r => typeElement p known (.member scope.package.id (scope.package.base r).2)
      | none => package
    member p scope enclosing spec.doc spec.name

/-- Adds what a file declares. Annotations in a comment that was not looked at are misplaced. -/
def file (p : Program) (pkg : Package) (f : File) : ScanStep Unit := do
  modify fun s => { s with processed := [] }
  each (decl p { package := pkg, file := f }) f.decls
  let processed := (← get).processed
  match (f.docs.filter (!processed.contains ·)).findSome? (findAnnotPlace? f.path) with
  | some pos => throw ⟨pos, .misplaced⟩
  | none => pure ()

def packageDoc (p : Program) (pkg : Package) (f : File) : ScanStep Unit := do
  let found ← annots p { package := pkg, file := f } f.doc
  let start := match f.doc with
    | some (c :: _) => c.spot.inFile f.path
    | _ => {}
  know (·.updatePackage pkg.id fun i =>
    { annots := i.annots ++ found
      pos := if !found.isEmpty && i.annots.isEmpty then start else i.pos })

def package (p : Program) (pkg : Package) : ScanStep Unit := do
  each (packageDoc p pkg) pkg.files
  add (packageElement p (← get).known pkg.id) none
  each (file p pkg) pkg.files

end Scan

def scanListing (p : Program) (pkg : Package) (known : Known) : Except Misuse Listing × Known :=
  match (Scan.package p pkg).run { known } with
  | (.ok (), s) => (.ok s.listing, s.known)
  | (.error e, s) => (.error e, s.known)

def scan (p : Program) (pkg : Package) (known : Known) : Except Misuse (List Found) × Known :=
  let (listing, known) := scanListing p pkg known
  (listing.map Listing.elements, known)

end ServiceAnnotations.Elements
