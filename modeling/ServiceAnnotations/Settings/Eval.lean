import ServiceAnnotations.Settings.Document
import ServiceAnnotations.Settings.Value
import ServiceAnnotations.Text.Normal

/-! # Values of expressions

An expression that has no value still has a type, which matters in the branch of a condition that is not
taken. -/
namespace ServiceAnnotations.Settings

/-- The value of an expression, and whether it really has that value. -/
structure Outcome where
  value : Value
  isValid : Bool

namespace Outcome

def good (v : Value) : Outcome := ⟨v, true⟩

def bad (t : Ty) : Outcome := ⟨.unknown t, false⟩

def given (isValid : Bool) (o : Outcome) : Outcome := { o with isValid := isValid && o.isValid }

def ofOption (t : Ty) : Option Value → Outcome
  | some v => good v
  | none => bad t

end Outcome

/-- The names at hand, innermost first, and the item of the innermost selection. -/
structure Env where
  names : List (String × Value) := []
  item : Value := .unknown .dynamic

namespace Env

def bind (env : Env) (key : Option String) (value : String) (k v : Value) : Env :=
  { env with names := (value, v) :: (key.toList.map (·, k) ++ env.names) }

end Env

def normalText (s : String) : Value := .text (Text.Normal.text s)

namespace Operator

/-- The type of operands; any type will do for equality. -/
def operandType : Operator → Ty
  | or | and => .bool
  | equal | notEqual => .dynamic
  | _ => .number

def resultType : Operator → Ty
  | add | sub | mul | div | mod => .number
  | _ => .bool

def result? : Operator → Value → Value → Option Value
  | or, .bool a, .bool b => some (.bool (a || b))
  | and, .bool a, .bool b => some (.bool (a && b))
  | equal, a, b => some (.bool (a.equal b))
  | notEqual, a, b => some (.bool !(a.equal b))
  | greater, .number m, .number n => some (.bool (n.less m))
  | greaterEqual, .number m, .number n => some (.bool !(m.less n))
  | less, .number m, .number n => some (.bool (m.less n))
  | lessEqual, .number m, .number n => some (.bool !(n.less m))
  | add, .number m, .number n => (m.add? n).map .number
  | sub, .number m, .number n => (m.add? n.negate).map .number
  | mul, .number m, .number n => (m.mul? n).map .number
  | div, .number m, .number n => (m.div? n).map .number
  | mod, .number m, .number n => (m.mod? n).map .number
  | _, _, _ => none

/-- An operation with any operands, which are converted if they can be. -/
def run (op : Operator) (a b : Outcome) : Outcome :=
  match a.value.convert? op.operandType, b.value.convert? op.operandType with
  | some x, some y =>
    let isStrict := op ≠ .equal && op ≠ .notEqual
    if !(a.isValid && b.isValid) || (isStrict && (x.isNull || y.isNull)) then .bad op.resultType
    else if x.isUnknown || y.isUnknown then .good (.unknown op.resultType)
    else .ofOption op.resultType (op.result? x y)
  | _, _ => .bad op.resultType

end Operator

def unary (t : Ty) (f : Value → Option Value) (a : Outcome) : Outcome :=
  match a.value.convert? t with
  | some x =>
    if !a.isValid || x.isNull then .bad t
    else if x.isUnknown then .good (.unknown t)
    else .ofOption t (f x)
  | none => .bad t

/-- The item with a number. Of items that are not known, their types are. -/
def itemAt? (source : Value) (n : Nat) : Option Value :=
  match source with
  | .tuple items | .list _ items => items[n]?
  | .unknown (.tuple types) => types[n]?.map .unknown
  | .unknown (.list t) => some (.unknown t)
  | _ => none

/-- The entry with a key. Of entries that are not known, their types are. -/
def entryAt? (source : Value) (key : String) : Option Value :=
  match source with
  | .object keys values | .map _ keys values => Value.lookup? key keys values
  | .unknown (.object keys types) => Value.lookup? key keys (types.map .unknown)
  | .unknown (.map t) => some (.unknown t)
  | _ => none

def select (source key : Value) : Outcome :=
  if source.isNull || key.isNull then .bad .dynamic
  else match source.type, key.type with
    | .dynamic, _ | _, .dynamic => .good (.unknown .dynamic)
    | .tuple _, _ | .list _, _ => match key.convert? .number with
      | some (.number n) => .ofOption .dynamic (n.nat?.bind (itemAt? source))
      | some _ => .good (.unknown .dynamic)
      | none => .bad .dynamic
    | .object _ _, _ | .map _, _ => match key.convert? .text with
      | some (.text k) => .ofOption .dynamic (entryAt? source k)
      | some _ => .good (.unknown .dynamic)
      | none => .bad .dynamic
    | _, _ => .bad .dynamic

def memberOf (source : Value) (name : String) : Outcome :=
  match source with
  | .unknown .dynamic => .good (.unknown .dynamic)
  | source => .ofOption .dynamic (entryAt? source (Text.Normal.text name))

/-- The text of values put together. All of them must stand for texts. -/
def concat (parts : List Outcome) : Outcome :=
  let texts := parts.map fun o => if o.value.isNull then none else o.value.convert? .text
  let isValid := parts.all Outcome.isValid && texts.all Option.isSome
  let strings := texts.map fun
    | some (.text s) => some s
    | _ => none
  match strings.mapM id with
  | some strings => ⟨normalText (String.join strings), isValid⟩
  | none => ⟨.unknown .text, isValid⟩

/-- The branch that a condition chooses, in a type that both branches have in common. -/
def choose (condition yes no : Outcome) : Outcome :=
  let isDynamicNull : Value → Bool
    | .null .dynamic => true
    | _ => false
  let (a, b) := (yes.value.type, no.value.type)
  let common :=
    if isDynamicNull yes.value then some b
    else if isDynamicNull no.value then some a
    else Ty.common? [a, b]
  -- What a list or an object has in common with something of any type cannot be told.
  let isOpen := a.isDynamic != b.isDynamic && !a.isPrimitive && !b.isPrimitive &&
    !isDynamicNull yes.value && !isDynamicNull no.value
  match common with
  | none => .bad .dynamic
  | some t =>
    if condition.value.isNull then .bad t
    else if condition.value.isUnknown then ⟨.unknown t, condition.isValid⟩
    else match condition.value.convert? .bool with
      | some (.bool b) =>
        let taken := if b then yes else no
        let result := if isOpen then some (.unknown .dynamic) else taken.value.convert? t
        .given (condition.isValid && taken.isValid) (.ofOption t result)
      | _ => .bad t

/-- Whether an item is kept by a condition; none if the condition has no truth value. -/
def isKept? (condition : Outcome) : Option Bool :=
  match condition.value.isNull, condition.value.convert? .bool with
  | false, some (.bool b) => if condition.isValid then some b else none
  | _, _ => none

/-- Whether a condition on items of any value could hold: it is checked once before all items. -/
def isCondition (condition : Outcome) : Bool :=
  condition.isValid && !condition.value.isNull && (condition.value.convert? .bool).isSome

/-- The items of values with the same key, in the order of first occurrence of the keys. -/
def groupEntries (entries : List (String × Value)) : List (String × Value) :=
  let keys := (entries.map Prod.fst).eraseDups
  keys.map fun k => (k, .tuple ((entries.filter (·.1 = k)).map Prod.snd))

def objectOf (keys values : List Outcome) : Outcome :=
  let isValid := keys.all Outcome.isValid && values.all Outcome.isValid
  let names := keys.map fun k => match k.value.isNull, k.value.convert? .text with
    | false, some (.text s) => some s
    | _, _ => none
  match names.mapM id with
  | some names => ⟨.ofEntries (names.zip (values.map Outcome.value)), isValid⟩
  | none => .bad .dynamic

/-- The items that a repetition goes through; a value that is no collection has none. -/
def itemsOf (source : Outcome) : Except Outcome (List (Value × Value)) :=
  if source.value.isNull then .error (.bad .dynamic)
  else match source.value.type with
    | .dynamic => .error ⟨.unknown .dynamic, source.isValid⟩
    | _ => match source.value.elements? with
      | some items => .ok items
      | none => .error (.bad .dynamic)

def joinItems (source : Outcome) : Outcome :=
  match source.value with
  | .tuple items | .list _ items => (concat (items.map .good)).given source.isValid
  | _ => ⟨.unknown .text, source.isValid⟩

/-- The same selection from each item. A value that is no list counts as its only item, and null as no
item. -/
def splat (source : Outcome) (each : Value → Outcome) : Outcome :=
  if !source.isValid then .bad .dynamic
  else
    let selected (items : List Value) : List Value × Bool :=
      let outcomes := items.map each
      (outcomes.map Outcome.value, outcomes.all Outcome.isValid)
    match source.value with
    | .null (.tuple _) | .null (.list _) => .bad .dynamic
    | .null _ => .good (.tuple [])
    | .unknown _ => .good (.unknown .dynamic)
    | .list t [] =>
      let o := each (.unknown t)
      ⟨.list o.value.type [], o.isValid⟩
    | .list _ items =>
      let (values, isValid) := selected items
      ⟨.list (Value.itemTypeOf values) values, isValid⟩
    | .tuple items =>
      let (values, isValid) := selected items
      ⟨.tuple values, isValid⟩
    | v =>
      let (values, isValid) := selected [v]
      ⟨.tuple values, isValid⟩

/-- The items that a condition keeps; none if it has no truth value for one of them. -/
def keptItems? (condition : Value → Value → Outcome) (items : List (Value × Value)) :
    Option (List (Value × Value)) := do
  let kept ← items.mapM fun (k, v) => (isKept? (condition k v)).map fun b => ((k, v), b)
  return (kept.filter Prod.snd).map Prod.fst

/-- A list with one value for each item that satisfies a condition. `check` is the condition for items
that are not known yet. -/
def forTuple (source check : Outcome) (condition each : Value → Value → Outcome) : Outcome :=
  match itemsOf source with
  | .error o => o
  | .ok items =>
    match isCondition check, keptItems? condition items with
    | true, some kept =>
      let outcomes := kept.map fun (k, v) => each k v
      ⟨.tuple (outcomes.map Outcome.value), source.isValid && outcomes.all Outcome.isValid⟩
    | _, _ => .bad .dynamic

/-- Keys and values, one pair for each item that satisfies a condition. -/
def forObject (isGrouped : Bool) (source check : Outcome)
    (condition eachKey each : Value → Value → Outcome) : Outcome :=
  match itemsOf source with
  | .error o => o
  | .ok items =>
    match isCondition check, keptItems? condition items with
    | true, some kept =>
      let made := objectOf (kept.map fun (k, v) => eachKey k v) (kept.map fun (k, v) => each k v)
      let names := kept.map fun (k, v) => match (eachKey k v).value.convert? .text with
        | some (.text s) => s
        | _ => ""
      let values := kept.map fun (k, v) => (each k v).value
      if isGrouped then
        match made.value with
        | .object _ _ => ⟨.ofEntries (groupEntries (names.zip values)), source.isValid && made.isValid⟩
        | _ => .bad .dynamic
      else made.given (source.isValid && names.eraseDups.length = names.length)
    | _, _ => .bad .dynamic

mutual

def eval (env : Env) : Expr → Outcome
  | .null => .good (.null .dynamic)
  | .bool b => .good (.bool b)
  | .number n => .good (.number n)
  | .text s => .good (normalText s)
  | .name s => match env.names.find? (·.1 = s) with
    | some (_, v) => .good v
    | none => .bad .dynamic
  | .item => .good env.item
  | .unresolved => .bad .dynamic
  | .template parts => concat (evalAll env parts)
  | .joined e => joinItems (eval env e)
  | .tuple items =>
    let outcomes := evalAll env items
    ⟨.tuple (outcomes.map Outcome.value), outcomes.all Outcome.isValid⟩
  | .object keys values => objectOf (evalAll env keys) (evalAll env values)
  | .enclosed e => eval env e
  | .negate e => unary .number (fun
      | .number n => some (.number n.negate)
      | _ => none) (eval env e)
  | .not e => unary .bool (fun
      | .bool b => some (.bool !b)
      | _ => none) (eval env e)
  | .binary op a b => op.run (eval env a) (eval env b)
  | .conditional condition yes no => choose (eval env condition) (eval env yes) (eval env no)
  | .index e key =>
    let source := eval env e
    let k := eval env key
    (select source.value k.value).given (source.isValid && k.isValid)
  | .member e name =>
    let source := eval env e
    (memberOf source.value name).given source.isValid
  | .splat e each =>
    let source := eval env e
    splat source fun v => eval { env with item := v } each
  | .forTuple key value source each condition =>
    forTuple (eval env source) (eval (env.bind key value (.unknown .dynamic) (.unknown .dynamic)) condition)
      (fun k v => eval (env.bind key value k v) condition) fun k v => eval (env.bind key value k v) each
  | .forObject key value source eachKey each condition isGrouped =>
    forObject isGrouped (eval env source)
      (eval (env.bind key value (.unknown .dynamic) (.unknown .dynamic)) condition)
      (fun k v => eval (env.bind key value k v) condition)
      (fun k v => eval (env.bind key value k v) eachKey) fun k v => eval (env.bind key value k v) each

def evalAll (env : Env) : List Expr → List Outcome
  | [] => []
  | e :: rest => eval env e :: evalAll env rest

end

end ServiceAnnotations.Settings
