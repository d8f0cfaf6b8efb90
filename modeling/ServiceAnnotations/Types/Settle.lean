import ServiceAnnotations.Types.Resolve

/-! # Finding out each thing once

Constants, variables and types depend on one another by name. Going through the declarations of a program
so that each one comes after those that it mentions, and keeping what is found, nothing has to be found
out twice. What is kept is what would be found anyway. -/
namespace ServiceAnnotations.Types
open Source

/-- A name that a declaration mentions, perhaps qualified by a package name. -/
structure Mention where
  package : Option String
  name : String
  deriving DecidableEq, Repr

mutual

def exprMentions : Expr → List Mention
  | .name id => [⟨none, id.name⟩]
  | .member (.name q) id => [⟨none, q.name⟩, ⟨some q.name, id.name⟩]
  | .member e _ => exprMentions e
  | .index e args => exprMentions e ++ exprsMentions args
  | .part e | .unary _ e | .paren e => exprMentions e
  | .assertion _ t => typeMentions t
  | .call f args _ => exprMentions f ++ exprsMentions args
  | .binary _ a b => exprMentions a ++ exprMentions b
  | .composite type keys => exprMentions type ++ keysMentions keys
  | .func sig => signatureMentions sig
  | .type t => typeMentions t
  | .number _ | .char _ | .string _ | .other => []

def exprsMentions : List Expr → List Mention
  | [] => []
  | e :: rest => exprMentions e ++ exprsMentions rest

def keysMentions : List (Option Expr) → List Mention
  | [] => []
  | some e :: rest => exprMentions e ++ keysMentions rest
  | none :: rest => keysMentions rest

def typeMentions : TypeExpr → List Mention
  | .name id => [⟨none, id.name⟩]
  | .member q id => [⟨some q.name, id.name⟩]
  | .apply generic args => typeMentions generic ++ typesMentions args
  | .pointer t | .slice t | .chan _ t | .paren t | .array none t => typeMentions t
  | .array (some length) t => exprMentions length ++ typeMentions t
  | .map k t => typeMentions k ++ typeMentions t
  | .func sig => signatureMentions sig
  | .struct fields => fieldsMentions fields
  | .interface items => itemsMentions items

def typesMentions : List TypeExpr → List Mention
  | [] => []
  | t :: rest => typeMentions t ++ typesMentions rest

def signatureMentions : Signature → List Mention
  | .mk params results _ => paramsMentions params ++ paramsMentions results

def paramsMentions : List Param → List Mention
  | [] => []
  | .mk _ t :: rest => typeMentions t ++ paramsMentions rest

def fieldsMentions : List Field → List Mention
  | [] => []
  | .mk _ _ t _ :: rest => typeMentions t ++ fieldsMentions rest

def itemsMentions : List InterfaceItem → List Mention
  | [] => []
  | .method _ _ sig :: rest => signatureMentions sig ++ itemsMentions rest
  | .embed terms :: rest => termsMentions terms ++ itemsMentions rest

def termsMentions : List Source.Term → List Mention
  | [] => []
  | .mk _ t :: rest => typeMentions t ++ termsMentions rest

end

namespace Denotation

def declName? : Denotation → Option DeclName
  | type d => some ⟨d.package.id, d.spec.name.name⟩
  | const package entry => some ⟨package.id, entry.name.name⟩
  | var package _ spec index => (spec.names[index]?).map fun id => ⟨package.id, id.name⟩
  | func package _ spec => some ⟨package.id, spec.name.name⟩
  | param _ | predeclared _ | memory _ => none

/-- What a declaration mentions, and in which files. The methods of a type belong to it. -/
def mentions : Denotation → List (File × Mention)
  | type d =>
    let own := typeMentions d.spec.body ++ d.spec.params.flatMap fun x => termsMentions x.constraint
    own.map (d.file, ·) ++ (d.package.methods d.spec.name.name).flatMap fun (file, spec, _) =>
      (signatureMentions spec.sig).map (file, ·)
  | const _ entry =>
    (((entry.type.map typeMentions).getD []) ++ ((entry.value.map exprMentions).getD [])).map (entry.file, ·)
  | var _ file spec _ =>
    (((spec.type.map typeMentions).getD []) ++ exprsMentions spec.values).map (file, ·)
  | func _ file spec =>
    (signatureMentions spec.sig ++ spec.params.flatMap fun x => termsMentions x.constraint).map (file, ·)
  | param _ | predeclared _ | memory _ => []

end Denotation

namespace Program

/-- The declared names that a declared name depends on. -/
def dependencies (p : Program) (n : DeclName) : List DeclName :=
  match p.package? n.package with
  | none => []
  | some pkg => (((pkg.denotation? n.name).map Denotation.mentions).getD []).filterMap fun (file, m) =>
    let s : Scope := { package := pkg, file }
    let meaning := match m.package with
      | none => p.denotation? s m.name
      | some q => p.memberDenotation? s q m.name
    meaning.bind Denotation.declName?

/-- A walk over declared names: those met so far, and those left behind, last one first. -/
structure Walk where
  met : List DeclName := []
  left : List DeclName := []

def walk (p : Program) : Nat → Walk → DeclName → Walk
  | 0, w, _ => w
  | fuel + 1, w, n =>
    if w.met.contains n then w
    else
      let w := (p.dependencies n).foldl (p.walk fuel) { w with met := n :: w.met }
      { w with left := n :: w.left }

/-- All declared names. -/
def declNames (p : Program) : List DeclName :=
  p.packages.flatMap fun pkg => (pkg.files.flatMap File.objects).map fun o => ⟨pkg.id, o.name⟩

/-- The declared names, each after those that it depends on. -/
def declNamesInOrder (p : Program) : List DeclName :=
  (p.declNames.foldl (p.walk (p.declNames.length + 1)) {}).left.reverse

def learn (p : Program) (n : DeclName) : Program :=
  let v := typeView p p.fuel
  match (p.package? n.package).bind (·.denotation? n.name) with
  | some (.const package entry) => match constant? p v p.fuel package entry with
    | some (.const t value) =>
      { p with findings := { p.findings with consts := (n, t, value) :: p.findings.consts } }
    | _ => p
  | some (.var package file spec index) => match varType? p v p.fuel package file spec index with
    | some t => { p with findings := { p.findings with vars := (n, t) :: p.findings.vars } }
    | none => p
  | some (.type d) =>
    let body := v.body (.named d.typeName [])
    if d.spec.isAlias || (!d.spec.params.isEmpty && body.hasUnion) then p
    else { p with findings := { p.findings with bodies := (d.typeName, body) :: p.findings.bodies } }
  | _ => p

def settle (p : Program) : Program := p.declNamesInOrder.foldl learn p

end Program

end ServiceAnnotations.Types
