import ServiceAnnotations.Types.Infer

/-! # Types and values of expressions

The lengths of arrays and the types of constants depend on the values of constant expressions. -/
namespace ServiceAnnotations.Types
open Source

mutual

def operand? (p : Program) (v : TypeView) : Nat → Scope → Expr → Option Operand
  | 0, _, _ => none
  | fuel + 1, s, e =>
    match e with
    | .number literal =>
      let (kind, value) := numberLiteral literal
      some (.const (.untyped kind) value)
    | .char literal => some (.const (.untyped .rune) (charLiteral literal))
    | .string literal => some (.const (.untyped .text) (.text (textLiteral literal)))
    | .paren inner => operand? p v fuel s inner
    | .type t => some (.type (v.resolve s t))
    | .func sig => some (.typed (v.resolve s (.func sig)))
    | .assertion _ t => some (.optional (v.resolve s t))
    | .composite type keys => composite? p v fuel s type keys
    | .unary op a => (operand? p v fuel s a).bind (v.unary? op)
    | .binary op a b => v.binary? op (evaluate p v fuel s a) (evaluate p v fuel s b)
    | .name id => (p.denotation? s id.name).bind (denoted? p v fuel s e)
    | .member a id =>
      let qualified := match a with
        | .name q => p.memberDenotation? s q.name id.name
        | _ => none
      match qualified with
      | some d => denoted? p v fuel s e d
      | none => (operand? p v fuel s a).bind (v.member? fuel (.of s.package.path id.name))
    | .index a args => do
      match ← operand? p v fuel s a with
      | .type _ => e.type?.map fun t => .type (v.resolve s t)
      | .generic f given =>
        let given := given ++ (← Expr.types? args).map (v.resolve s)
        return ((v.instance? fuel f given [] false).map .typed).getD (.generic f given)
      | o => o.valueType?.bind v.item?
    | .part a => do return .typed (v.partType (← (← operand? p v fuel s a).valueType?))
    | .call f args isSpread => do
      match ← operand? p v fuel s f with
      | .type t => return v.conversion t (← args.head?.bind (operand? p v fuel s))
      | .builtin "Offsetof" => offset? p v fuel s (← args.head?)
      | .builtin name => v.builtin? fuel name (args.map (evaluate p v fuel s))
      | .generic f given => do
        let type ← v.instance? fuel f given (args.map (evaluate p v fuel s)) isSpread
        match type with
        | .func _ results _ => return .results results
        | _ => none
      | o => match v.body (← o.valueType?) with
        | .other (.func _ results _) => return .results results
        | _ => none
    | .other => none

/-- What an expression stands for; no value if that is not known. -/
def evaluate (p : Program) (v : TypeView) : Nat → Scope → Expr → Operand
  | 0, _, _ => .results []
  | fuel + 1, s, e => (operand? p v fuel s e).getD (.results [])

def denoted? (p : Program) (v : TypeView) : Nat → Scope → Expr → Denotation → Option Operand
  | 0, _, _, _ => none
  | fuel + 1, s, e, d =>
    match d with
    | .const package entry => constant? p v fuel package entry
    | .var package file spec index => (varType? p v fuel package file spec index).map .typed
    | .func package file spec =>
      if spec.params.isEmpty then some (.typed (v.resolve { package, file } (.func spec.sig)))
      else some (.generic ⟨package, file, spec⟩ [])
    | .predeclared "true" => some (.const (.untyped .bool) (.bool true))
    | .predeclared "false" => some (.const (.untyped .bool) (.bool false))
    | .predeclared "iota" => some (.const (.untyped .int) (.ofInt s.iota))
    | d => match d.meaning?, d with
      | some _, _ => e.type?.map fun t => .type (v.resolve s t)
      | none, .predeclared name | none, .memory name => some (.builtin name)
      | none, _ => none

def constant? (p : Program) (v : TypeView) : Nat → Package → ConstEntry → Option Operand
  | 0, _, _ => none
  | fuel + 1, pkg, entry =>
    match p.findings.const? ⟨pkg.id, entry.name.name⟩ with
    | some (t, value) => some (.const t value)
    | none => do
      let s : Scope := { package := pkg, file := entry.file, iota := entry.iota }
      match operand? p v fuel s (← entry.value), entry.type with
      | some (.const _ value), some t => return v.inType (v.resolve s t) value
      | some o, none => return o
      | _, some t => return .typed (v.resolve s t)
      | none, none => none

def varType? (p : Program) (v : TypeView) :
    Nat → Package → File → VarSpec → (index : Nat) → Option Ty
  | 0, _, _, _, _ => none
  | fuel + 1, package, file, spec, index =>
    match (spec.names[index]?).bind fun id => p.findings.var? ⟨package.id, id.name⟩ with
    | some t => some t
    | none =>
      let s : Scope := { package, file }
      match spec.type, spec.values with
      | some t, _ => some (v.resolve s t)
      | none, [e] => do ((← operand? p v fuel s e).valueTypes spec.names.length)[index]?
      | none, values => do (← operand? p v fuel s (← values[index]?)).valueType?

def offset? (p : Program) (v : TypeView) : Nat → Scope → Expr → Option Operand
  | 0, _, _ => none
  | fuel + 1, s, e =>
    match e with
    | .paren inner => offset? p v fuel s inner
    | .member a id => do
      let t ← (← operand? p v fuel s a).valueType?
      let offset ← v.fieldOffset? (.of s.package.path id.name) fuel [(0, t)]
      return .const (.typed (.basic .uintptr)) (.ofInt offset)
    | _ => none

/-- A value given by its items. An array type without a length has as many as there are. -/
def composite? (p : Program) (v : TypeView) :
    Nat → Scope → Expr → List (Option Expr) → Option Operand
  | 0, _, _, _ => none
  | fuel + 1, s, e, keys => do
    match ← e.type? with
    | .array none elem =>
      let step (state : Nat × Nat) (key : Option Expr) : Nat × Nat :=
        let index := match key.bind (operand? p v fuel s) with
          | some (.const _ value) => (value.int?.getD 0).toNat
          | _ => state.1
        (index + 1, max state.2 (index + 1))
      return .typed (.array (keys.foldl step (0, 0)).2 (v.resolve s elem))
    | t => return .typed (v.resolve s t)

end

def lengthOf (p : Program) (v : TypeView) (fuel : Nat) (s : Scope) (length : Option Expr) : Nat :=
  match length.bind (operand? p v fuel s) with
  | some (.const _ value) => (value.int?.getD 0).toNat
  | _ => 0

end ServiceAnnotations.Types
