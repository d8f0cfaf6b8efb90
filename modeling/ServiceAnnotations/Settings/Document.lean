import ServiceAnnotations.Settings.Number
import ServiceAnnotations.Text.Bytes

/-! # Settings files as written

A settings file is a list of attributes. A file knows no functions, and no variables but those that its
own repetitions bind. -/
namespace ServiceAnnotations.Settings

inductive Operator
  | or | and | equal | notEqual | greater | greaterEqual | less | lessEqual
  | add | sub | mul | div | mod
  deriving DecidableEq, Repr

inductive Expr
  | null
  | bool (b : Bool)
  | number (n : Number)
  | text (s : String)
  | name (s : String)
  /-- A text made of parts. -/
  | template (parts : List Expr)
  /-- A text made of the items of a list. -/
  | joined (items : Expr)
  | tuple (items : List Expr)
  /-- Keys and values, in the order of writing. -/
  | object (keys values : List Expr)
  /-- An expression in parentheses, or a text that consists of it. -/
  | enclosed (e : Expr)
  | negate (e : Expr)
  | not (e : Expr)
  | binary (op : Operator) (a b : Expr)
  | conditional (condition yes no : Expr)
  | index (e key : Expr)
  | member (e : Expr) (name : String)
  /-- The same selection from each item, which is called `.item` there. -/
  | splat (source each : Expr)
  | item
  /-- A list with one value for each item that satisfies a condition. -/
  | forTuple (key : Option String) (value : String) (source each condition : Expr)
  /-- Keys and values, one pair for each item that satisfies a condition. Values with the same key are put
  together if `isGrouped`. -/
  | forObject (key : Option String) (value : String) (source eachKey each condition : Expr)
      (isGrouped : Bool)
  /-- Something that never has a value, such as a call of a function. -/
  | unresolved

instance : Inhabited Expr := ⟨.null⟩

namespace Expr

/-- Whether an expression names a variable and selects from it by fixed keys. -/
def isPath : Expr → Bool
  | name _ => true
  | member e _ => e.isPath
  | index e (.number _) | index e (.text _) | index e (.bool _) | index e .null => e.isPath
  | index e (.template [.text _]) => e.isPath
  | _ => false

/-- An expression as a key: a lone word stands for itself, and a path is not clear enough. -/
def asKey : Expr → Expr
  | name s => text s
  | bool true => text "true"
  | bool false => text "false"
  | null => text "null"
  | e => if e.isPath then unresolved else e

end Expr

/-- The attributes of a file or block, whether it has blocks, and what its stand-ins stand for. -/
structure Document where
  attributes : List (String × Expr) := []
  hasBlocks : Bool := false
  standIns : List (Char × Bytes) := []

end ServiceAnnotations.Settings
