import ServiceAnnotations.Settings.Number
import ServiceAnnotations.Settings.Type

/-! # Values of settings files -/
namespace ServiceAnnotations.Settings

/-- Values. The keys of an object or map are different and in ascending order. -/
inductive Value
  | null (t : Ty)
  /-- A value that cannot be told. -/
  | unknown (t : Ty)
  | bool (b : Bool)
  | number (n : Number)
  | text (s : String)
  | tuple (items : List Value)
  | object (keys : List String) (values : List Value)
  | list (item : Ty) (items : List Value)
  | map (item : Ty) (keys : List String) (values : List Value)
  deriving Repr

instance : Inhabited Value := ⟨.null .dynamic⟩

namespace Value

mutual

def type : Value → Ty
  | null t => t
  | unknown t => t
  | bool _ => .bool
  | number _ => .number
  | text _ => .text
  | tuple items => .tuple (types items)
  | object keys values => .object keys (types values)
  | list item _ => .list item
  | map item _ _ => .map item

def types : List Value → List Ty
  | [] => []
  | v :: rest => v.type :: types rest

end

def isNull : Value → Bool
  | null _ => true
  | _ => false

def isUnknown : Value → Bool
  | unknown _ => true
  | _ => false

/-- A value of a simple type in another simple type. Numbers stand for no truth value. -/
def toPrimitive? : Ty → Value → Option Value
  | .bool, bool b => some (bool b)
  | .bool, text s =>
    if s = "true" || s = "1" then some (bool true)
    else if s = "false" || s = "0" then some (bool false)
    else none
  | .number, number n => some (number n)
  | .number, text s => (Number.read? s.toList).map number
  | .text, bool b => some (text (if b then "true" else "false"))
  | .text, number n => some (text n.text)
  | .text, text s => some (text s)
  | _, _ => none

def lookup? (key : String) (keys : List String) (values : List Value) : Option Value :=
  ((keys.zip values).find? (·.1 = key)).map Prod.snd

def itemTypeOf (items : List Value) : Ty :=
  ((types items).find? fun t => !t.isDynamic).getD .dynamic

mutual

/-- A value in a type. What is null or unknown stays so. -/
def convertWith : Nat → Ty → Value → Option Value
  | 0, _, _ => none
  | fuel + 1, t, v =>
    if v.type.same t then some v
    else match t, v with
      | .dynamic, v => some v
      | t, null source => if source.convertsTo t then some (null t) else none
      | t, unknown source => if source.convertsTo t then some (unknown t) else none
      | .tuple ts, tuple items =>
        if ts.length ≠ items.length then none
        else ((ts.zip items).mapM fun (t, v) => convertWith fuel t v).map tuple
      | .list t, tuple items | .list t, list _ items => do
        let item := if t.isDynamic && items.isEmpty then itemHint v else t
        let (item, items) ← convertItems fuel item items
        return list item items
      | .map t, object keys items | .map t, map _ keys items => do
        let item := if t.isDynamic && items.isEmpty then itemHint v else t
        let (item, items) ← convertItems fuel item items
        return map item keys items
      | .object ks ts, object keys values | .object ks ts, map _ keys values =>
        ((ks.zip ts).mapM fun (k, t) => (lookup? k keys values).bind (convertWith fuel t)).map (object ks)
      | t, v => v.toPrimitive? t
where
  /-- The type of items of a list or map. -/
  itemHint : Value → Ty
    | list t _ | map t _ _ => t
    | _ => .dynamic

/-- Values in one type, and that type: the one that is asked for or, if any type will do, a common one. -/
def convertItems : Nat → Ty → List Value → Option (Ty × List Value)
  | 0, _, _ => none
  | fuel + 1, asked, items =>
    if items.isEmpty then some (asked, [])
    else do
      let item ← Ty.itemType? (Ty.fuelFor (Ty.depths (types items))) asked (types items)
      let items ← items.mapM (convertWith fuel item)
      let item ← Ty.common? (types items)
      let items ← items.mapM (convertWith fuel item)
      return (itemTypeOf items, items)

end

/-- A value in a type. What is null or unknown stays so. -/
def convert? (t : Ty) (v : Value) : Option Value := convertWith (2 * v.type.depth + 2) t v

mutual

/-- Whether two values are equal: nulls are, and values of the same type with the same content. -/
def equal : Value → Value → Bool
  | null _, null _ => true
  | bool a, bool b => a = b
  | number m, number n => m.same n
  | text s, text t => s = t
  | tuple xs, tuple ys => (Ty.tuple (types xs)).same (.tuple (types ys)) && equalAll xs ys
  | object ks xs, object ls ys =>
    (Ty.object ks (types xs)).same (.object ls (types ys)) && equalAll xs ys
  | list t xs, list u ys => t.same u && equalAll xs ys
  | map t ks xs, map u ls ys => t.same u && ks = ls && equalAll xs ys
  | _, _ => false

def equalAll : List Value → List Value → Bool
  | [], [] => true
  | x :: xs, y :: ys => equal x y && equalAll xs ys
  | _, _ => false

end

/-- Puts a value at a key, in place of an earlier one, and keeps the keys in order. -/
def put (k : String) (v : Value) : List (String × Value) → List (String × Value)
  | [] => [(k, v)]
  | (j, w) :: rest =>
    if k = j then (k, v) :: rest
    else if k < j then (k, v) :: (j, w) :: rest
    else (j, w) :: put k v rest

/-- An object with the given entries. The last value of a key counts. -/
def ofEntries (entries : List (String × Value)) : Value :=
  let sorted := entries.foldl (fun m (k, v) => put k v m) []
  object (sorted.map Prod.fst) (sorted.map Prod.snd)

/-- The items of a value with their numbers or keys; none for a value without items. -/
def elements? : Value → Option (List (Value × Value))
  | tuple items | list _ items => some (items.zipIdx.map fun (v, i) => (number (.ofIndex i), v))
  | object keys values | map _ keys values => some ((keys.map text).zip values)
  | _ => none

end Value

end ServiceAnnotations.Settings
