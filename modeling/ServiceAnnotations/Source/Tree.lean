import ServiceAnnotations.Source.Token

/-! # Declarations of Go source files

Only what the declarations of a package say about its types and constants is kept; bodies of functions are
not. -/
namespace ServiceAnnotations.Source

structure Ident where
  name : String
  spot : Spot
  deriving DecidableEq, Repr, Inhabited

def Token.ident (t : Token) : Ident := ⟨String.ofList t.text, t.spot⟩

inductive ChanDir | both | send | receive
  deriving DecidableEq, Repr

mutual

/-- Expressions. A type may stand where an expression is expected, and many types are written like
expressions. -/
inductive Expr
  | number (literal : List Char)
  | char (literal : List Char)
  | string (literal : List Char)
  | name (id : Ident)
  | member (e : Expr) (id : Ident)
  | index (e : Expr) (args : List Expr)
  /-- A part of a list or text. -/
  | part (e : Expr)
  | assertion (e : Expr) (type : TypeExpr)
  /-- A call. The last argument may stand for all arguments from there on. -/
  | call (f : Expr) (args : List Expr) (isSpread : Bool)
  | unary (op : String) (e : Expr)
  | binary (op : String) (a b : Expr)
  | paren (e : Expr)
  /-- A value of a type given by its items, of which only the keys are kept. -/
  | composite (type : Expr) (keys : List (Option Expr))
  | func (sig : Signature)
  | type (t : TypeExpr)
  | other

inductive TypeExpr
  | name (id : Ident)
  | member (package id : Ident)
  | apply (generic : TypeExpr) (args : List TypeExpr)
  | pointer (elem : TypeExpr)
  | slice (elem : TypeExpr)
  /-- An array type. Without a length, the items of a composite value give it. -/
  | array (length : Option Expr) (elem : TypeExpr)
  | map (key value : TypeExpr)
  | chan (dir : ChanDir) (elem : TypeExpr)
  | func (sig : Signature)
  | struct (fields : List Field)
  | interface (items : List InterfaceItem)
  | paren (inner : TypeExpr)

/-- Parameters and results. The last parameter of a variadic function is written with its element
type. -/
inductive Signature
  | mk (params results : List Param) (isVariadic : Bool)

inductive Param
  | mk (name : Option Ident) (type : TypeExpr)

/-- A field of a struct: one or more names, or an embedded type. -/
inductive Field
  | mk (doc : Option CommentGroup) (names : List Ident) (type : TypeExpr) (tag : Option (List Char))

inductive InterfaceItem
  | method (doc : Option CommentGroup) (name : Ident) (sig : Signature)
  | embed (terms : List Term)

/-- A type in a union, or all types with that underlying type. -/
inductive Term
  | mk (tilde : Bool) (type : TypeExpr)

end

instance : Inhabited Expr := ⟨.other⟩
instance : Inhabited TypeExpr := ⟨.name default⟩
instance : Inhabited Signature := ⟨.mk [] [] false⟩

namespace Signature

def params : Signature → List Param
  | mk ps _ _ => ps

def results : Signature → List Param
  | mk _ rs _ => rs

def isVariadic : Signature → Bool
  | mk _ _ v => v

end Signature

namespace Param

def name : Param → Option Ident
  | mk n _ => n

def type : Param → TypeExpr
  | mk _ t => t

end Param

namespace Field

def doc : Field → Option CommentGroup
  | mk d _ _ _ => d

def names : Field → List Ident
  | mk _ ns _ _ => ns

def type : Field → TypeExpr
  | mk _ _ t _ => t

def tag : Field → Option (List Char)
  | mk _ _ _ t => t

end Field

namespace Term

def tilde : Term → Bool
  | mk b _ => b

def type : Term → TypeExpr
  | mk _ t => t

end Term

namespace Expr

mutual

def type? : Expr → Option TypeExpr
  | name id => some (.name id)
  | member (.name package) id => some (.member package id)
  | index e args => return .apply (← e.type?) (← types? args)
  | unary "*" e => return .pointer (← e.type?)
  | paren e => return .paren (← e.type?)
  | type t => some t
  | _ => none

def types? : List Expr → Option (List TypeExpr)
  | [] => some []
  | e :: rest => return (← e.type?) :: (← types? rest)

end

end Expr

def TypeExpr.bare : TypeExpr → TypeExpr
  | paren inner => inner.bare
  | t => t

structure TypeParam where
  name : Ident
  constraint : List Term

/-- The receiver of a method: a type, perhaps behind a pointer, and names for its parameters. -/
structure Receiver where
  isPointer : Bool
  base : Ident
  params : List Ident

structure TypeSpec where
  doc : Option CommentGroup
  name : Ident
  params : List TypeParam
  isAlias : Bool
  body : TypeExpr

/-- The declaration of constants. Without type and values, those of the declaration before are meant. -/
structure ConstSpec where
  doc : Option CommentGroup
  names : List Ident
  type : Option TypeExpr
  values : List Expr
  /-- The number of the declaration within its group. -/
  iota : Nat

/-- The declaration of variables. One value may stand for all variables. -/
structure VarSpec where
  doc : Option CommentGroup
  names : List Ident
  type : Option TypeExpr
  values : List Expr

structure FuncSpec where
  doc : Option CommentGroup
  name : Ident
  receiver : Option Receiver
  params : List TypeParam
  sig : Signature

/-- A declaration at the top level of a file, with the comments that document it. In a group, a
declaration without comments of its own has those of the group. -/
inductive Decl
  | type (spec : TypeSpec)
  | const (spec : ConstSpec)
  | var (spec : VarSpec)
  | func (spec : FuncSpec)

structure Import where
  /-- The name given to the package, which may be `_` or `.`. -/
  name : Option String
  path : String
  deriving DecidableEq, Repr

/-- A source file. -/
structure File where
  path : Bytes
  packageName : String
  doc : Option CommentGroup
  imports : List Import
  decls : List Decl
  /-- The comments that document anything in the file, the package apart, in source order. -/
  docs : List CommentGroup
  /-- How many tokens the file has. -/
  size : Nat

end ServiceAnnotations.Source
