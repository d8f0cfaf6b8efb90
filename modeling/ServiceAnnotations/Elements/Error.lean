import ServiceAnnotations.Mark.Parser
import ServiceAnnotations.Source.Place
import ServiceAnnotations.Text.Quoted

/-! # What can be wrong with the annotations of a package -/
namespace ServiceAnnotations.Elements
open Text

inductive AnnotError
  | unreadable (fault : Mark.Fault)
  | notImported (package : String)
  | ambiguous (name first second : String)
  | missing (name : Mark.Reference)
  | notType (name : Mark.Reference)
  | repeated (element : String)
  | mixedKeys (type : Mark.Reference)
  | unsupported (value : Mark.Constant)
  | keyInList
  | onAlias (name : String)
  | misplaced

def constantText : Mark.Constant → String
  | .bool true => "true"
  | .bool false => "false"
  | .int n => toString n
  | .text b => Quoted.bytes b
  | .unknown => "unknown"

def AnnotError.message : AnnotError → String
  | unreadable fault => fault.message
  | notImported package => "package " ++ package ++ " is not imported"
  | ambiguous name first second =>
    "package name " ++ name ++ " is ambiguous; could be " ++ Quoted.string first ++ " or " ++
      Quoted.string second
  | missing name => "symbol " ++ name.text ++ " does not exist"
  | notType name => name.text ++ " is not a type"
  | repeated element => "element " ++ element ++ " is given more than once"
  | mixedKeys type => "annotation " ++ type.text ++ " mixes keyed and unkeyed values"
  | unsupported value =>
    "unsupported value " ++ constantText value ++
      ": only strings, types, and \x7b...\x7d lists are allowed"
  | keyInList => "keys are not allowed inside \x7b...\x7d lists"
  | onAlias name => "type alias " ++ name ++ " cannot have annotations"
  | misplaced =>
    "annotations are only allowed on the package and its top-level declarations, " ++
      "or on the fields and methods of top-level types, not on embedded types or local declarations"

/-- An error with the place where it was found. -/
abbrev Misuse := Source.Located AnnotError

end ServiceAnnotations.Elements
