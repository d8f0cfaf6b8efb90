import ServiceAnnotations.Companion.Render
import ServiceAnnotations.Files.Path
import ServiceAnnotations.Source.Survey

/-! # Generated files

A generated file stands beside the sources of its package and is named after the package. -/
namespace ServiceAnnotations.Companion
open ServiceAnnotations.Types

def block (statements : List String) : String :=
  "\x7b\n" ++ String.join (statements.map fun s => "\t" ++ s ++ "\n") ++ "\x7d\n"

/-- A statement of a formatting function. The text made so far is in the variable `s`. -/
inductive FormatStep
  | begin (text : String)
  | append (text : String)
  /-- Appends a label and then the value of a field as text. -/
  | appendField (label field : String)
  | finish
  deriving DecidableEq, Repr

/-- A statement as written, where `sprint` turns a value into text. -/
def FormatStep.text (sprint : String) : FormatStep → String
  | begin text => "s := " ++ Text.Quoted.string text
  | append text => "s += " ++ Text.Quoted.string text
  | appendField label field =>
    "s += " ++ Text.Quoted.string label ++ " + " ++ sprint ++ "(v." ++ field ++ ")"
  | finish => "return s"

def FormatStep.packages : FormatStep → List (String × String)
  | appendField _ _ => [("fmt", "fmt")]
  | begin _ | append _ | finish => []

inductive Declaration
  /-- A function that formats values of a struct type. -/
  | formatFunction (name type : String) (steps : List FormatStep)
  /-- A method that sets a field. -/
  | setter (type field name : String) (fieldType : Shape)
  /-- The type of read-only views of a struct type. -/
  | viewType (view type : String)
  /-- The function that makes a read-only view. -/
  | viewConstructor (view type : String)
  /-- A method of a read-only view that reads a field. -/
  | getter (view field name : String) (fieldType : Shape)

namespace Declaration

def packages : Declaration → List (String × String)
  | formatFunction _ _ steps => steps.flatMap FormatStep.packages
  | setter _ _ _ fieldType => fieldType.packages
  | viewType _ _ | viewConstructor _ _ => []
  | getter _ _ _ fieldType => fieldType.packages

def text (i : Imports) : Declaration → String
  | formatFunction name type steps =>
    let sprint := i.qualify (some ("fmt", "fmt")) "Sprint"
    "func " ++ name ++ "(v " ++ type ++ ") string " ++ block (steps.map (FormatStep.text sprint))
  | setter type field name fieldType =>
    "func (v *" ++ type ++ ") " ++ name ++ "(val " ++ fieldType.text i.qualify 0 ++ ") " ++
      block ["v." ++ field ++ " = val"]
  | viewType view type => "type " ++ view ++ " struct " ++ block ["v " ++ type]
  | viewConstructor view type =>
    "func New" ++ view ++ "(v " ++ type ++ ") " ++ view ++ " " ++
      block ["return " ++ view ++ "\x7bv: v\x7d"]
  | getter view field name fieldType =>
    "func (r " ++ view ++ ") " ++ name ++ "() " ++ fieldType.text i.qualify 0 ++ " " ++
      block ["return r.v." ++ field]

def hasJoin : Declaration → Bool
  | setter _ _ _ fieldType | getter _ _ _ fieldType => fieldType.hasJoin
  | formatFunction _ _ _ | viewType _ _ | viewConstructor _ _ => false

/-- The text of a declaration as it stands before it is laid out. -/
def draft (i : Imports) : Declaration → String
  | setter type field name fieldType =>
    "func (v *" ++ type ++ ") " ++ name ++ "(val " ++ fieldType.line i.qualify ++ ") " ++
      block ["v." ++ field ++ " = val"]
  | getter view field name fieldType =>
    "func (r " ++ view ++ ") " ++ name ++ "() " ++ fieldType.line i.qualify ++ " " ++
      block ["return r.v." ++ field]
  | d => d.text i

end Declaration

structure FileSpec where
  /-- The path of the package that the file belongs to. -/
  path : String
  package : String
  decls : List Declaration

namespace FileSpec

def imports (f : FileSpec) : Imports := (f.decls.flatMap Declaration.packages).foldl Imports.add { own := f.path }

/-- The content of the file as it stands before it is laid out. -/
def draft (f : FileSpec) : String :=
  "package " ++ f.package ++ "\n\n" ++ String.join (f.imports.lines.map (· ++ "\n")) ++ "\n" ++
    "\n".intercalate (f.decls.map (Declaration.draft f.imports))

/-- What is wrong with the file, if anything is: it is read once more before it is laid out. -/
def fault? (f : FileSpec) : Option String :=
  if f.decls.any Declaration.hasJoin then Source.complaintText? (Source.complaintsAbout f.draft) else none

def text (f : FileSpec) : String :=
  let imports := match f.imports.lines with
    | [] => []
    | lines => [String.join (lines.map (· ++ "\n"))]
  "\n".intercalate
    (("package " ++ f.package ++ "\n") :: imports ++ f.decls.map (Declaration.text f.imports))

end FileSpec

structure Writer where
  /-- A type as a generated file writes it; none for a type that cannot be written. -/
  type? : Program → Scope → Source.TypeExpr → Option Shape
  /-- The content of a file, or what is wrong with it. -/
  content : FileSpec → Except Bytes Bytes

def Writer.standard : Writer where
  type? := shape?
  content f := match f.fault? with
    | some fault => .error (Bytes.ofString fault)
    | none => .ok (Bytes.ofString f.text)

/-- A generated file so far. -/
structure GeneratedFile where
  /-- The name without directory. -/
  name : String
  package : Package
  decls : List Declaration := []

namespace GeneratedFile

def new (pkg : Package) (suffix : String) : GeneratedFile where
  name := pkg.name ++ "." ++ suffix
  package := pkg

def add (f : GeneratedFile) (d : Declaration) : GeneratedFile := { f with decls := f.decls ++ [d] }

def spec (f : GeneratedFile) : FileSpec := ⟨f.package.path, f.package.name, f.decls⟩

def path (f : GeneratedFile) : Bytes := Files.Path.join f.package.dir f.name

/-- Whether a declaration at a place stands somewhere else than in an earlier copy of the file. A
declaration without a place does. -/
def isElsewhere (f : GeneratedFile) (place : Option Source.Place) : Bool :=
  match place with
  | none => true
  | some place => Files.Path.base place.file ≠ Bytes.ofString f.name

def isTaken (f : GeneratedFile) (name : String) : Bool :=
  (f.package.object? name).any fun o => f.isElsewhere (some o.place)

end GeneratedFile

end ServiceAnnotations.Companion
