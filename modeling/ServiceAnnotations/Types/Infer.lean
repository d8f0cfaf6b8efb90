import ServiceAnnotations.Types.Operand
import ServiceAnnotations.Types.Unify

/-! # Inferring the type arguments of a call

The type arguments of a generic function are read off its arguments, then off the constraints of its
parameters, and last off arguments that have no type of their own. -/
namespace ServiceAnnotations.Types
open Source

namespace GenericFunc

def owner (f : GenericFunc) : TypeName := .member f.package.id f.spec.name.name

def scope (f : GenericFunc) (args : List Ty) : Scope :=
  { package := f.package, file := f.file, params := (f.spec.params.map (·.name.name)).zip args }

def params (f : GenericFunc) : List Ty := (List.range f.spec.params.length).map (.param f.owner ·)

end GenericFunc

mutual

/-- Binds the parameters of `owner` that are still free to the parts of a type that stand in their places. -/
def learnType (owner : TypeName) : Ty → Ty → Bindings → Bindings
  | .param o i, y, b => if o = owner && b[i]? = some none && y.isClosed then b.set i (some y) else b
  | .struct _ ts, .struct _ us, b => learnTypes owner ts us b
  | .interface _ ss _ ts _, .interface _ us _ vs _, b =>
    learnTypes owner ts vs (learnTypes owner ss us b)
  | .pointer x, .pointer y, b => learnType owner x y b
  | .slice x, .slice y, b => learnType owner x y b
  | .array _ x, .array _ y, b => learnType owner x y b
  | .map k v, .map l w, b => learnType owner v w (learnType owner k l b)
  | .chan _ x, .chan _ y, b => learnType owner x y b
  | .func ps rs _, .func qs ss _, b => learnTypes owner rs ss (learnTypes owner ps qs b)
  | .named _ xs, .named _ ys, b => learnTypes owner xs ys b
  | _, _, b => b

def learnTypes (owner : TypeName) : List Ty → List Ty → Bindings → Bindings
  | x :: xs, y :: ys, b => learnTypes owner xs ys (learnType owner x y b)
  | _, _, b => b

end

/-- Matches a type that mentions the parameters of `owner` against a type, part by part. -/
def matchType (owner : TypeName) (x y : Ty) (b : Bindings) : Option Bindings :=
  let b := learnType owner x y b
  if x.subst owner b = y then some b else none

def Ty.isNamed : Ty → Bool
  | named _ _ => true
  | _ => false

namespace TypeView

def matchMethods (v : TypeView) (depth : Nat) (owner : TypeName) (y : Ty) :
    List Method → Bindings → Option Bindings
  | [], b => some b
  | m :: ms, b =>
    match v.lookup depth y true m.id with
    | some (.method n) => (matchType owner m.sig n.sig b).bind (v.matchMethods depth owner y ms)
    | _ => none

/-- Matches the type of a parameter against that of an argument, which need not be the same: a declared
type goes with its underlying type, and a type goes with an interface that it satisfies. -/
def matchArgument (v : TypeView) (depth : Nat) (owner : TypeName) (x y : Ty) (b : Bindings) :
    Option Bindings :=
  match matchType owner x y b with
  | some b => some b
  | none => match x with
    | .param _ i => match (b[i]?).bind id with
      | some bound =>
        if (v.body bound).type = (v.body y).type then some (if y.isNamed then b.set i (some y) else b)
        else none
      | none => none
    | _ =>
      match v.body x with
      | .interface set => v.matchMethods depth owner y set.methods b
      | under =>
        let shown := if y.isNamed then x else under.type
        let given := if x.isNamed then y else (v.body y).type
        match shown, given with
        | .chan _ x, .chan _ y => matchType owner x y b
        | x, y => matchType owner x y b

/-- The single type that the types of a union have under them, and whether it is the only type. -/
def core? (v : TypeView) (set : TypeSet) : Option (Ty × Bool) :=
  match set.terms with
  | some (first :: rest) =>
    let under := (v.body first.type).type
    if rest.all fun x => (v.body x.type).type = under then
      some (if rest.isEmpty then (first.type, !first.tilde) else (under, false))
    else none
  | _ => none

def matchConstraints (v : TypeView) (depth : Nat) (owner : TypeName) (sets : List TypeSet)
    (b : Bindings) : Bindings :=
  sets.zipIdx.foldl (fun b (set, i) =>
    match (b[i]?).bind id, v.core? set with
    | some y, some (x, _) => (v.matchArgument depth owner x y b).getD b
    | some y, none => (v.matchMethods depth owner y set.methods b).getD b
    | none, some (x, true) => b.set i (some x)
    | none, _ => b) b

def constrained (v : TypeView) (depth : Nat) (f : GenericFunc) (b : Bindings) : Bindings :=
  let sets := f.spec.params.map fun x => v.constraint (f.scope f.params) x.constraint
  f.params.foldl (fun b _ => v.matchConstraints depth f.owner sets b) b

/-- A generic function as an argument where a function of type `x` is wanted, if that tells all its type
arguments. -/
def functionArgument? (v : TypeView) (depth : Nat) (x : Ty) (f : GenericFunc) (given : List Ty) :
    Option Ty :=
  let start : Bindings := f.params.zipIdx.map fun (_, i) => given[i]?
  let b := learnType f.owner (v.resolve (f.scope f.params) (.func f.spec.sig)) (v.body x).type start
  ((v.constrained depth f b).mapM id).map fun types => v.resolve (f.scope types) (.func f.spec.sig)

/-- Matches parameters against the arguments. What cannot be matched tells nothing. -/
def matchArguments (v : TypeView) (depth : Nat) (owner : TypeName) (pairs : List (Ty × Operand))
    (b : Bindings) : Bindings :=
  pairs.foldl (fun b (x, o) =>
    let type? := match o with
      | .generic f given => v.functionArgument? depth (x.subst owner b) f given
      | o => match o.constType? with
        | some (.typed y) => some y
        | _ => none
    ((type?.bind fun y => v.matchArgument depth owner x y b)).getD b) b

def bindDefaults (owner : TypeName) (pairs : List (Ty × Operand)) (b : Bindings) : Bindings :=
  let kindOf (i : Nat) : Option ConstKind := pairs.foldl (fun k (x, o) =>
    match o.constType? with
    | some (.untyped kind) =>
      if x = .param owner i then some ((k.map (·.join kind)).getD kind) else k
    | _ => k) none
  b.zipIdx.map fun (t, i) => t.or ((kindOf i).map fun kind => .basic kind.basic)

/-- The types of the parameters for `count` arguments. The last parameter of a variadic function is
repeated, unless one argument stands for all. -/
def paramTypes (params : List Ty) (isVariadic isSpread : Bool) (count : Nat) : List Ty :=
  match isVariadic && !isSpread, params.getLast? with
  | true, some (.slice elem) =>
    params.dropLast ++ List.replicate (count + 1 - params.length) elem
  | _, _ => params

def inferTypes? (v : TypeView) (depth : Nat) (f : GenericFunc) (given : List Ty) (args : List Operand)
    (isSpread : Bool) : Option (List Ty) :=
  let s := f.scope f.params
  let args := args.flatMap fun
    | .results ts => ts.map .typed
    | o => [o]
  let pairs : List (Ty × Operand) := match v.resolve s (.func f.spec.sig) with
    | .func params _ isVariadic => (paramTypes params isVariadic isSpread args.length).zip args
    | _ => []
  let start : Bindings := f.params.zipIdx.map fun (_, i) => given[i]?
  let rounds (b : Bindings) : Bindings :=
    f.params.foldl (fun b _ => v.constrained depth f (v.matchArguments depth f.owner pairs b)) b
  let b := rounds (bindDefaults f.owner pairs (rounds start))
  let b := f.params.foldl (fun b _ => b.map fun t => t.map (·.subst f.owner b)) b
  b.mapM id

def instance? (v : TypeView) (depth : Nat) (f : GenericFunc) (given : List Ty) (args : List Operand)
    (isSpread : Bool) : Option Ty :=
  (v.inferTypes? depth f given args isSpread).map fun types =>
    v.resolve (f.scope types) (.func f.spec.sig)

end TypeView

end ServiceAnnotations.Types
