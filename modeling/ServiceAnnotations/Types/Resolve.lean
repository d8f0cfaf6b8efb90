import ServiceAnnotations.Types.Comparable
import ServiceAnnotations.Types.Evaluate

/-! # From written types to types

A generic type is taken at arguments by reading its declaration with the arguments in place of its
parameters. All recursion is bounded by a number that the size of the program gives. -/
namespace ServiceAnnotations.Types
open Source

def tagBytes (tag : Option (List Char)) : Bytes := (tag.map textLiteral).getD []

def embeddedIdent : TypeExpr → Ident
  | .name id => id
  | .member _ id => id
  | .apply generic _ => embeddedIdent generic
  | .pointer elem => embeddedIdent elem
  | _ => default

namespace TypeSet

def addMethods (set : TypeSet) (methods : List Method) : TypeSet :=
  { set with
    methods := set.methods ++ methods.filter fun m => !set.methods.any fun n => n.id = m.id }

end TypeSet

namespace Body

/-- A body with type arguments in place of the parameters of `owner`. -/
def subst (owner : TypeName) (args : List Ty) : Body → Body
  | struct fields => struct (fields.map fun f => { f with type := taken f.type })
  | interface set =>
    interface { set with
      methods := set.methods.map fun m => { m with sig := taken m.sig }
      terms := set.terms.map fun ts => ts.map fun t => { t with type := taken t.type } }
  | other t => other (taken t)
where
  taken (t : Ty) : Ty := t.subst owner (args.map some)

def hasUnion : Body → Bool
  | interface set => set.terms.isSome
  | _ => false

end Body

mutual

def resolve (p : Program) : Nat → Scope → TypeExpr → Ty
  | 0, _, _ => .basic .invalid
  | fuel + 1, s, e =>
    match e with
    | .name id => resolveMeaning p fuel (p.meaning? s id.name) []
    | .member q id => resolveMeaning p fuel (p.memberMeaning? s q.name id.name) []
    | .apply generic args =>
      let args := args.map (resolve p fuel s)
      match generic with
      | .name id => resolveMeaning p fuel (p.meaning? s id.name) args
      | .member q id => resolveMeaning p fuel (p.memberMeaning? s q.name id.name) args
      | _ => .basic .invalid
    | .pointer elem => .pointer (resolve p fuel s elem)
    | .slice elem => .slice (resolve p fuel s elem)
    | .array length elem =>
      let v : TypeView := ⟨resolve p fuel, body p fuel, declaredMethods p fuel, unionOf p fuel⟩
      .array (lengthOf p v fuel s length) (resolve p fuel s elem)
    | .map key value => .map (resolve p fuel s key) (resolve p fuel s value)
    | .chan dir elem => .chan dir (resolve p fuel s elem)
    | .func sig => resolveSignature p fuel s sig
    | .struct fields => (Body.struct (resolveFields p fuel s fields)).type
    | .interface items => (Body.interface (resolveItems p fuel s items)).type
    | .paren inner => resolve p fuel s inner

/-- The type that a name stands for, at type arguments. An alias stands for what it names. -/
def resolveMeaning (p : Program) : Nat → Option TypeMeaning → List Ty → Ty
  | 0, _, _ => .basic .invalid
  | fuel + 1, meaning, args =>
    match meaning with
    | none => .basic .invalid
    | some (.param t) => t
    | some (.predeclared t) => t
    | some (.declared d) =>
      if d.spec.isAlias then
        let params := d.spec.params.map (·.name.name)
        resolve p fuel { package := d.package, file := d.file, params := params.zip args } d.spec.body
      else .named d.typeName args

/-- The type of a function. The last parameter of a variadic function is a slice. -/
def resolveSignature (p : Program) : Nat → Scope → Signature → Ty
  | 0, _, _ => .basic .invalid
  | fuel + 1, s, sig =>
    let params := sig.params.map fun x => resolve p fuel s x.type
    let results := sig.results.map fun x => resolve p fuel s x.type
    let params := match sig.isVariadic, params.reverse with
      | true, last :: before => (.slice last :: before).reverse
      | _, _ => params
    .func params results sig.isVariadic

def resolveFields (p : Program) : Nat → Scope → List Field → List StructField
  | 0, _, _ => []
  | fuel + 1, s, fields => fields.flatMap fun f =>
    let type := resolve p fuel s f.type
    let field (id : Ident) (isEmbedded : Bool) : StructField :=
      ⟨.of s.package.path id.name, isEmbedded, tagBytes f.tag, type,
        some (id.spot.inFile s.file.path)⟩
    match f.names with
    | [] => [field (embeddedIdent f.type) true]
    | names => names.map (field · false)

def resolveItems (p : Program) : Nat → Scope → List InterfaceItem → TypeSet
  | 0, _, _ => {}
  | fuel + 1, s, items =>
    items.foldl (fun set item => match item with
      | .method _ name sig =>
        set.addMethods [⟨.of s.package.path name.name, resolveSignature p fuel s sig, false,
          some (name.spot.inFile s.file.path)⟩]
      | .embed terms => intersect p fuel set (unionOf p fuel s terms)) {}

/-- The types of a union. An interface in it stands for its own types. -/
def unionOf (p : Program) : Nat → Scope → List Source.Term → TypeSet
  | 0, _, _ => {}
  | fuel + 1, s, terms =>
    let sets := terms.map fun t =>
      let type := resolve p fuel s t.type
      match body p fuel type with
      | .interface set => set
      | _ => { terms := some [⟨t.tilde, type⟩] }
    match sets with
    | [set] => set
    | sets =>
      { terms := sets.foldr (fun set acc => match set.terms, acc with
          | some xs, some ys => some (xs ++ ys)
          | _, _ => none) (some []) }

def intersect (p : Program) : Nat → TypeSet → TypeSet → TypeSet
  | 0, a, _ => a
  | fuel + 1, a, b =>
    let terms := match a.terms, b.terms with
      | none, ts => ts
      | ts, none => ts
      | some xs, some ys => some (xs.flatMap fun x => ys.filterMap fun y =>
          let ux := if y.tilde then (body p fuel x.type).type else x.type
          let uy := if x.tilde then (body p fuel y.type).type else y.type
          if ux = uy then some (if !x.tilde || y.tilde then x else y) else none)
    { a.addMethods b.methods with terms, isComparable := a.isComparable || b.isComparable }.onlyComparable
      (body p fuel) fuel

/-- The underlying type of a type. The declaration of a generic type is read at the type's arguments, or
at its own parameters if there are none. -/
def body (p : Program) : Nat → Ty → Body
  | 0, t => .other t
  | fuel + 1, t =>
    match t with
    | .named name args =>
      match name.package, p.findings.body? name with
      | none, _ => match predeclaredSet? name.name with
        | some set => .interface set
        | none => .other t
      | some _, some known => if args.isEmpty then known else known.subst name args
      | some package, none =>
        match (p.package? package).bind (·.declared? name) with
        | none => .other t
        | some d =>
          let names := d.spec.params.map (·.name.name)
          let args := if args.isEmpty then (List.range names.length).map (Ty.param name ·) else args
          let s : Scope := { package := d.package, file := d.file, params := names.zip args }
          match d.spec.body.bare with
          | .struct fields => .struct (resolveFields p fuel s fields)
          | .interface items => .interface (resolveItems p fuel s items)
          | e => body p fuel (resolve p fuel s e)
    | .struct keys types =>
      .struct ((keys.zip types).map fun (k, type) => ⟨k.id, k.isEmbedded, k.tag, type, none⟩)
    | .interface ids sigs tildes terms isComparable =>
      .interface
        { methods := (ids.zip sigs).map fun (id, sig) => ⟨id, sig, false, none⟩
          terms := tildes.map fun ts => (ts.zip terms).map fun (tilde, type) => ⟨tilde, type⟩
          isComparable }
    | _ => .other t

def declaredMethods (p : Program) : Nat → TypeName → List Ty → List Method
  | 0, _, _ => []
  | fuel + 1, name, args =>
    match name.package.bind p.package? with
    | none => []
    | some pkg => (pkg.methods name.name).map fun (file, spec, receiver) =>
      let names := receiver.params.map Ident.name
      let args := if args.isEmpty then (List.range names.length).map (Ty.param name ·) else args
      ⟨.of pkg.path spec.name.name,
        resolveSignature p fuel { package := pkg, file, params := names.zip args } spec.sig,
        (pkg.base receiver).1, some (spec.name.spot.inFile file.path)⟩

end

def typeView (p : Program) (fuel : Nat) : TypeView :=
  ⟨resolve p fuel, body p fuel, declaredMethods p fuel, unionOf p fuel⟩

def lookup (p : Program) (fuel : Nat) (t : Ty) (hasAddress : Bool) (id : MemberId) : Option Member :=
  (typeView p fuel).lookup fuel t hasAddress id

/-- The type of a constant; none if it has no type of its own. -/
def typeOfConst? (p : Program) (fuel : Nat) (pkg : Package) (c : ConstEntry) : Option Ty :=
  match constant? p (typeView p fuel) fuel pkg c with
  | some (.const (.typed t) _) | some (.value (.typed t)) => some t
  | _ => none

end ServiceAnnotations.Types
