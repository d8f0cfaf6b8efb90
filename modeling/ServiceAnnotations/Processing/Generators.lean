import ServiceAnnotations.Processing.Session

/-! # Processors that generate source files

Each of them looks for one annotation on struct types and writes at most one file for a package. -/
namespace ServiceAnnotations.Processing
open Companion Elements Registry Source ServiceAnnotations.Types

/-- The work of a generator on a package so far. -/
structure Work where
  file : GeneratedFile
  /-- The place of the first type that something was generated for. -/
  first : Option Place := none
  reports : List Report := []

namespace Work

def report (w : Work) (severity : Severity) (pos : Place) (text : Bytes) : Work :=
  { w with reports := w.reports ++ [⟨severity, pos, text⟩] }

def generated (w : Work) (pos : Place) : Work := { w with first := w.first.or (some pos) }

end Work

/-- A step of a generator. One that breaks down leaves the work so far. -/
abbrev Generate := ExceptT Unit (StateM Work)

namespace Generate

def each {α : Type} (f : α → Generate Unit) : List α → Generate Unit
  | [] => pure ()
  | a :: rest => do
    f a
    each f rest

def report (severity : Severity) (pos : Place) (text : Bytes) : Generate Unit :=
  modify (·.report severity pos text)

def add (d : Declaration) : Generate Unit := modify fun w => { w with file := w.file.add d }

end Generate

structure Target where
  type : TypeName
  element : SourceElement
  pos : Place
  fields : List FieldInfo
  isGeneric : Bool

def target? (p : Program) (known : Known) (f : Found) : Option Target :=
  match f.type with
  | none => none
  | some n =>
    match body p p.fuel (p.typeOf n) with
    | .struct _ =>
      some { type := n, element := f.element, pos := (known.type n).pos,
             fields := (known.type n).fields, isGeneric := p.isGeneric n }
    | _ => none

/-- The elements that carry an annotation of the module. -/
def annotatedWith (found : List Found) (annot : String) : List Found :=
  (Listing.of found).annotatedWith (moduleAnnot annot)

theorem annotatedWith_eq (found : List Found) (annot : String) :
    annotatedWith found annot = found.filter (·.element.isAnnotatedWith (moduleAnnot annot)) :=
  Listing.annotatedWith_of found (moduleAnnot annot)

theorem mem_of_mem_annotatedWith {found : List Found} {annot : String} {f : Found}
    (h : f ∈ annotatedWith found annot) : f ∈ found := by
  rw [annotatedWith_eq] at h
  exact (List.mem_filter.mp h).1

/-- A formatting function so far: its statements, and what comes before the next field that it shows. -/
structure FormatBody where
  steps : List FormatStep
  separator : String

namespace FormatBody

def start (type : String) : FormatBody := ⟨[.begin (type ++ "\x7b ")], ""⟩

/-- Shows a field if it is to be shown. Blank ones cannot be shown. -/
def appendField (function : String) (b : FormatBody) (f : FieldInfo) : Generate FormatBody := do
  if (findAnnot f.annots (moduleAnnot "Name")).isNone then return b
  else if f.name = "_" then do
    Generate.report .warning f.pos
      (Bytes.ofString ("blank fields cannot be read, so they are left out of " ++ function))
    return b
  else return ⟨b.steps ++ [.appendField (b.separator ++ f.name ++ "=") f.name], ", "⟩

end FormatBody

/-- Generates the formatting function of a type. Interfaces and enumerations are passed over. -/
def generateFormat (p : Program) (known : Known) (f : Found) : Generate Unit := do
  match f.type with
  | none => pure ()
  | some n =>
    if kindOf p n ≠ .concrete then return
    match target? p known f with
    | none =>
      Generate.report .error (known.type n).pos "@autoserv.ToString can only be used on struct types"
    | some t =>
      let name := "Format" ++ n.name
      if t.isGeneric then
        Generate.report .warning t.pos
          (Bytes.ofString ("cannot generate " ++ name ++ ": generic types are not supported"))
      else if (← get).file.isTaken name then
        Generate.report .error t.pos
          (Bytes.ofString ("cannot generate " ++ name ++ ": the name is already declared"))
      else
        let body ← t.fields.foldlM (FormatBody.appendField name) (.start n.name)
        Generate.add (.formatFunction name n.name (body.steps ++ [.append " \x7d", .finish]))
        modify (·.generated t.pos)

def capitalized (name : String) : String := Text.Utf8.toText (Text.upperFirst name)

/-- Generates the setter of a field. A setter whose name is taken by another field or method is left
out. -/
def generateSetter (writer : Writer) (p : Program) (t : Target) (f : FieldInfo) : Generate Unit := do
  if f.name = "_" then return
  let name := "Set" ++ capitalized f.name
  let file := (← get).file
  let present := lookup p p.fuel (.pointer (p.typeOf t.type)) false (.of file.package.path name)
  if present.any fun m => file.isElsewhere m.place then
    Generate.report .warning f.pos (Bytes.ofString
      ("cannot generate " ++ t.type.name ++ "." ++ name ++ ": the name is already declared"))
  else
    match writer.type? p f.scope f.type with
    | none => throw ()
    | some s =>
      Generate.add (.setter t.type.name f.name name s)
      modify (·.generated t.pos)

def generateSetters (writer : Writer) (p : Program) (known : Known) (f : Found) : Generate Unit := do
  match target? p known f with
  | none =>
    Generate.report .error (f.element.pos.getD {})
      "@autoserv.Setter can only be used on struct types"
  | some t =>
    if t.isGeneric then
      Generate.report .warning t.pos (Bytes.ofString
        ("cannot generate setters for " ++ t.type.name ++ ": generic types are not supported"))
    else Generate.each (generateSetter writer p t) t.fields

/-- What is done about immutable types: exported fields are reported, or read-only views are
generated. -/
inductive Policy | analyze | generate
  deriving DecidableEq, Repr

def Policy.ofOptions (options : ByteMap Bytes) : Except Bytes Policy :=
  let policy := (options.get? "policy").getD []
  if policy = [] || policy = Bytes.ofString "ANA" then .ok .analyze
  else if policy = Bytes.ofString "GEN" then .ok .generate
  else if policy = Bytes.ofString "MOD" then
    .error "immutable policy MOD is not supported: struct fields cannot be made read-only in place"
  else .error (Bytes.ofString
    ("unknown immutable policy " ++ Text.Quoted.bytes policy ++ ": must be ANA or GEN"))

def analyzeFields (t : Target) : Generate Unit :=
  Generate.each (fun f =>
    if isExported f.name then
      Generate.report .warning f.pos (Bytes.ofString ("field " ++ f.name ++ " of immutable type ") ++
        t.element.decl.qualifiedName ++ Bytes.ofString " is exported and can be reassigned")
    else pure ()) t.fields

/-- Generates the getters of a view. Of fields with the same getter, only the first has one. -/
def generateGetters (writer : Writer) (p : Program) (view : String) : (seen : List String) → List FieldInfo →
    Generate Unit
  | _, [] => pure ()
  | seen, f :: rest => do
    if f.name = "_" then generateGetters writer p view seen rest
    else
      let name := capitalized f.name
      if seen.contains name then do
        Generate.report .warning f.pos (Bytes.ofString
          ("cannot generate " ++ view ++ "." ++ name ++ ": another field has the same getter"))
        generateGetters writer p view seen rest
      else
        match writer.type? p f.scope f.type with
        | none => throw ()
        | some s =>
          Generate.add (.getter view f.name name s)
          generateGetters writer p view (name :: seen) rest

def generateView (writer : Writer) (p : Program) (t : Target) : Generate Unit := do
  let view := t.type.name ++ "Immutable"
  if t.isGeneric then
    Generate.report .warning t.pos
      (Bytes.ofString ("cannot generate " ++ view ++ ": generic types are not supported"))
  else
    let file := (← get).file
    match [view, "New" ++ view].find? file.isTaken with
    | some name =>
      Generate.report .error t.pos
        (Bytes.ofString ("cannot generate " ++ name ++ ": the name is already declared"))
    | none =>
      Generate.add (.viewType view t.type.name)
      Generate.add (.viewConstructor view t.type.name)
      generateGetters writer p view [] t.fields
      modify (·.generated t.pos)

def generateImmutable (policy : Policy) (writer : Writer) (p : Program) (known : Known) (f : Found) :
    Generate Unit := do
  match target? p known f with
  | none =>
    Generate.report .error (f.element.pos.getD {})
      "@autoserv.Immutable can only be used on struct types"
  | some t =>
    match policy with
    | .analyze => analyzeFields t
    | .generate => generateView writer p t

/-- What comes of creating and writing a file: the files then, and what went wrong. A file whose content
cannot be made is left empty. -/
def writeSource (sources : Sources) (tree : Files.Tree) (path : Bytes) (content : Except Bytes Bytes) :
    Files.Tree × Option Bytes :=
  match sources with
  | .tree => match tree.create path, content with
    | .error cause, _ => (tree, some cause)
    | .ok created, .error cause => (created, some cause)
    | .ok created, .ok content => (created.write path content, none)
  | .failing create write close =>
    let fault := match content with
      | .error cause => cause
      | .ok _ => []
    (tree, [create, fault, write, close].find? (· ≠ []))

def writeGenerated {σ : Type} (env : Environment) (f : GeneratedFile) (pos : Place) (s : Session σ) :
    Session σ :=
  let s := s.log ⟨.debug, "generating file",
    [("path", .text f.path), ("elements", .number f.decls.length)]⟩
  let (tree, failure) := writeSource env.sources s.tree f.path (env.writer.content f.spec)
  let s := { s with tree }
  match failure with
  | none => s
  | some cause =>
    s.report ⟨.error, pos, Bytes.ofString "Unable to create " ++ f.path ++ Bytes.ofString ", " ++ cause⟩

/-- Runs a generator on the elements that carry its annotation, and writes its file if anything was
generated. -/
def runGenerator {σ : Type} (env : Environment) (annot suffix : String)
    (generate : Program → Known → Found → Generate Unit) (pkg : Package) (found : List Found)
    (known : Known) (s : Session σ) : Except Stop Unit × Session σ :=
  let step := Generate.each (generate env.program known) (annotatedWith found annot)
  let (outcome, w) := step.run { file := .new pkg suffix }
  let s := w.reports.foldl Session.report s
  match outcome with
  | .error () => (.error .broken, s)
  | .ok () =>
    match w.first with
    | some pos => (.ok (), writeGenerated env w.file pos s)
    | none => (.ok (), s)

end ServiceAnnotations.Processing
