import Mathlib.Logic.Function.Basic
import ServiceAnnotations.Mark.Literal
import ServiceAnnotations.Proofs.Source.Pieces

/-! # Functions that put texts together

A file of such functions is read from its tokens, and a function of it is called with a struct value. Names are looked
up as in any source file: a variable hides what the file imports, what the package declares hides what is predeclared,
and the package declares nothing that the file imports. Of a file that cannot be compiled with its package no function
can be called. -/
namespace ServiceAnnotations.Companion
open Source Text

inductive Operand
  | text (value : Bytes)
  /-- What a function makes of a field of the value in a variable. The function may be qualified by the name of a
  package. -/
  | call (function : List String) (value field : String)
  deriving DecidableEq

inductive Statement
  | define (name : String) (operands : List Operand)
  | append (name : String) (operands : List Operand)
  | give (name : String)
  deriving DecidableEq

def Statement.operands : Statement → List Operand
  | define _ operands | append _ operands => operands
  | give _ => []

structure TextFunction where
  name : String
  parameter : String
  parameterType : String
  result : String
  statements : List Statement
  deriving DecidableEq

structure Import where
  name : Option String
  path : Bytes
  deriving DecidableEq

structure TextFile where
  package : String
  imports : List Import
  functions : List TextFunction
  deriving DecidableEq

def TextFunction.uses (f : TextFunction) (name : String) : Bool :=
  (f.statements.flatMap Statement.operands).any fun
    | .call (qualifier :: _ :: _) _ _ => qualifier = name
    | _ => false

structure CallSite (V : Type) where
  /-- The path of the package. -/
  own : Bytes
  /-- Whether the package declares a name. -/
  declares : String → Bool
  type : String
  fields : String → Option V
  /-- The name of the package at a path. -/
  packageName? : Bytes → Option String
  /-- The functions of packages that show values. -/
  function? : (path : Bytes) → (name : String) → Option (V → Bytes)

section
variable {V : Type} (site : CallSite V)

def Import.name? (i : Import) : Option String := i.name.or (site.packageName? i.path)

namespace TextFile

def importsUsed (file : TextFile) : Bool :=
  file.imports.all fun i => (i.name? site).any fun name => file.functions.any (·.uses name)

/-- Whether the package declares neither the predeclared name of texts nor a name that the file imports, and values can
be of the types of the parameters. -/
def namesFit (file : TextFile) : Bool :=
  !site.declares "string" && file.imports.all (fun i => (i.name? site).all (!site.declares ·)) &&
    file.functions.all (·.parameterType ≠ "_")

def function? (file : TextFile) : List String → Option (V → Bytes)
  | [name] => site.function? site.own name
  | [qualifier, name] => do
    let i ← file.imports.find? fun i => i.name? site = some qualifier
    site.function? i.path name
  | _ => none

end TextFile

variable (function? : List String → Option (V → Bytes)) (parameter : String)

/-- The text that an operand stands for. Only fields of the parameter can be read, and no blank ones. Functions whose
names are those of variables cannot be called. -/
def Operand.value? (vars : String → Option Bytes) : Operand → Option Bytes
  | text value => some value
  | call function value field =>
    if value ≠ parameter || field = "_" || function.head?.any fun n => n = parameter || (vars n).isSome then none
    else do return (← function? function) (← site.fields field)

def valueOf? (vars : String → Option Bytes) (operands : List Operand) : Option Bytes :=
  (operands.mapM (Operand.value? site function? parameter vars)).map List.flatten

/-- The text that statements return, given the texts in variables. A variable is declared once, before it is used. -/
def runStatements? : (vars : String → Option Bytes) → List Statement → Option Bytes
  | _, [] => none
  | vars, .define name operands :: rest =>
    if name = "_" || name = parameter || (vars name).isSome then none
    else do
      let value ← valueOf? site function? parameter vars operands
      runStatements? (Function.update vars name (some value)) rest
  | vars, .append name operands :: rest => do
    let before ← vars name
    let value ← valueOf? site function? parameter vars operands
    runStatements? (Function.update vars name (some (before ++ value))) rest
  | vars, .give name :: _ => vars name

def TextFile.execute? (file : TextFile) (f : TextFunction) : Option Bytes :=
  runStatements? site (file.function? site) f.parameter (fun _ => none) f.statements

def TextFile.call? (file : TextFile) (f : TextFunction) : Option Bytes :=
  if file.namesFit site && file.importsUsed site && f.parameterType = site.type && f.result = "string"
  then file.execute? site f
  else none

end

def callOf? (function : List String) : List Piece → Option Operand
  | [opening, (.word, value), dot, (.word, field), closing] =>
    if [opening, dot, closing] = [sign "(", sign ".", sign ")"]
    then some (.call function (String.ofList value) (String.ofList field))
    else none
  | dot :: (.word, name) :: rest => if dot = sign "." then callOf? (function ++ [String.ofList name]) rest else none
  | _ => none

def literalOf? (literal : List Char) : Option Bytes :=
  if literal.head? = some '"' then Mark.Literal.quoted literal else none

def operandOf? : List Piece → Option Operand
  | [(.string, literal)] => (literalOf? literal).map .text
  | (.word, name) :: rest => callOf? [String.ofList name] rest
  | _ => none

def operandsOf? (ts : List Piece) : Option (List Operand) := (ts.splitOn (sign "+")).mapM operandOf?

def statementOf? : List Piece → Option Statement
  | [give, (.word, name)] => if give = (.keyword, "return".toList) then some (.give (String.ofList name)) else none
  | (.word, name) :: assignment :: operands =>
    if assignment = sign ":=" then (operandsOf? operands).map (.define (String.ofList name))
    else if assignment = sign "+=" then (operandsOf? operands).map (.append (String.ofList name))
    else none
  | _ => none

def lineEnd : Piece := (.lineEnd, ['\n'])

/-- Reads a function from its lines, without the brace that closes it. Its first statement stands on the line of the
brace that opens it, since no line ends there. -/
def TextFunction.ofLines? : List (List Piece) → Option TextFunction
  | (func :: (.word, name) :: opening :: (.word, parameter) :: (.word, type) :: closing :: (.word, result) :: brace ::
      first) :: rest =>
    if [func, opening, closing, brace] = [(.keyword, "func".toList), sign "(", sign ")", sign "\x7b"]
    then ((first :: rest).mapM statementOf?).map fun statements =>
      ⟨String.ofList name, String.ofList parameter, String.ofList type, String.ofList result, statements⟩
    else none
  | _ => none

def functionsOf? (lines : List (List Piece)) : Option (List TextFunction) :=
  match (lines.splitOn [sign "\x7d"]).reverse with
  | [[]] :: groups => groups.reverse.mapM TextFunction.ofLines?
  | _ => none

def isImport (line : List Piece) : Bool := line.head? = some (.keyword, "import".toList)

def Import.ofLine? : List Piece → Option Import
  | [_, (.string, literal)] => (literalOf? literal).map (⟨none, ·⟩)
  | [_, (.word, name), (.string, literal)] => (literalOf? literal).map (⟨some (String.ofList name), ·⟩)
  | _ => none

namespace TextFile

def ofLines? : List (List Piece) → Option TextFile
  | [clause, (.word, package)] :: lines =>
    if clause = (.keyword, "package".toList) then do
      let imports ← (lines.takeWhile isImport).mapM Import.ofLine?
      let functions ← functionsOf? (lines.dropWhile isImport)
      return ⟨String.ofList package, imports, functions⟩
    else none
  | _ => none

def read? (text : String) : Option TextFile :=
  ofLines? (((tokens text.toList).map Token.piece).splitOn lineEnd)

end TextFile

end ServiceAnnotations.Companion
