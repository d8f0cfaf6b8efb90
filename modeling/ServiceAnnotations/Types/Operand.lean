import ServiceAnnotations.Types.Lookup
import ServiceAnnotations.Types.Sizes

/-! # What expressions stand for

An expression stands for a constant, a value, a type or a function. Operations on constants give constants;
an operation on a value without a type of its own and one with a type gives a value of that type. -/
namespace ServiceAnnotations.Types
open Source

structure GenericFunc where
  package : Package
  file : File
  spec : FuncSpec

inductive Operand
  | const (type : ConstType) (value : ConstValue)
  | value (type : ConstType)
  /-- A value that may be missing; whether it is there can be asked for with it. -/
  | optional (type : Ty)
  | type (t : Ty)
  | builtin (name : String)
  /-- A function of which only the first type arguments are given. -/
  | generic (f : GenericFunc) (args : List Ty)
  /-- The results of a call. -/
  | results (types : List Ty)

/-- The type or kind of what an operation on two operands gives. -/
def ConstType.join : ConstType → ConstType → ConstType
  | typed t, _ => typed t
  | untyped _, typed t => typed t
  | untyped k, untyped l => untyped (k.join l)

namespace Operand

def int (n : Int) : Operand := const (.typed (.basic .int)) (.ofInt n)

def typed (t : Ty) : Operand := value (.typed t)

def constType? : Operand → Option ConstType
  | const t _ => some t
  | value t => some t
  | optional t => some (.typed t)
  | results [t] => some (.typed t)
  | _ => none

def valueType? (o : Operand) : Option Ty := o.constType?.map ConstType.type

/-- The types of `count` values that an operand gives. -/
def valueTypes (count : Nat) : Operand → List Ty
  | results ts => ts
  | optional t => if count = 2 then [t, .basic .bool] else [t]
  | o => o.valueType?.toList

end Operand

namespace TypeView

def inType (v : TypeView) (t : Ty) (value : ConstValue) : Operand :=
  match v.basic? t with
  | some b => .const (.typed t) (value.convert b)
  | none => .typed t

def isInteger (v : TypeView) : ConstType → Bool
  | .typed t => (v.basic? t).any Basic.isInteger
  | .untyped kind => kind.isInteger

def ofType (v : TypeView) (t : ConstType) (value : ConstValue) : Operand :=
  match t with
  | .typed t => v.inType t value
  | .untyped kind => .const (.untyped kind) value

def match? (v : TypeView) : Operand → Operand → Option (ConstType × ConstValue × ConstValue)
  | .const (.untyped k) x, .const (.untyped l) y => some (.untyped (k.join l), x, y)
  | .const (.typed t) x, .const _ y => match v.inType t y with
    | .const _ y => some (.typed t, x, y)
    | _ => none
  | .const (.untyped _) x, .const (.typed t) y => match v.inType t x with
    | .const _ x => some (.typed t, x, y)
    | _ => none
  | _, _ => none

def comparisons : List String := ["==", "!=", "<", "<=", ">", ">="]

def common? (a b : Operand) : Option ConstType :=
  match a.constType?, b.constType? with
  | some t, some u => some (t.join u)
  | t, u => t.or u

def valueOperation? (op : String) (a b : Operand) : Option Operand :=
  if op ∈ comparisons then some (.value (.untyped .bool))
  else if op = "<<" || op = ">>" then a.constType?.map .value
  else (common? a b).map .value

/-- A shift of a constant. The result has the type of what is shifted. -/
def shift? (v : TypeView) (op : String) (t : ConstType) (x y : ConstValue) : Option Operand := do
  let value ← ConstValue.intOperation? op (← x.int?) (← y.int?)
  let t := match t with
    | .untyped kind => if kind.isInteger then t else .untyped .int
    | _ => t
  return v.ofType t (.ofInt value)

def binary? (v : TypeView) (op : String) (a b : Operand) : Option Operand :=
  match op, a, b with
  | "<<", .const t x, .const _ y | ">>", .const t x, .const _ y => v.shift? op t x y
  | _, _, _ => match v.match? a b with
    | some (t, x, y) =>
      if op ∈ comparisons then
        (ConstValue.compare? op x y).map fun r => .const (.untyped .bool) (.bool r)
      else (ConstValue.binary? op (v.isInteger t) x y).map (v.ofType t)
    | none => valueOperation? op a b

def unary? (v : TypeView) (op : String) (a : Operand) : Option Operand :=
  match op, a with
  | "*", .type t => some (.type (.pointer t))
  | "*", a => a.valueType?.bind v.pointee? |>.map .typed
  | "&", a => a.valueType?.map fun t => .typed (.pointer t)
  | "<-", a => a.valueType?.bind fun t => match v.body t with
    | .other (.chan _ elem) => some (.optional elem)
    | _ => none
  | op, .const t x =>
    let width := match t with
      | .typed t => (v.basic? t).bind Basic.unsignedWidth?
      | .untyped _ => none
    (x.unary? op width).map (v.ofType t)
  | _, a => a.constType?.map .value

def arrayLength? (v : TypeView) (t : Ty) : Option Nat :=
  match v.body ((v.pointee? t).getD t) with
  | .other (.array n _) => some n
  | _ => none

/-- An item of a value of a type. That of a map may be missing. -/
def item? (v : TypeView) (t : Ty) : Option Operand :=
  match v.body ((v.pointee? t).getD t) with
  | .other (.array _ elem) => some (.typed elem)
  | .other (.slice elem) => some (.typed elem)
  | .other (.map _ elem) => some (.optional elem)
  | .other (.basic .string) => some (.typed (.basic .uint8))
  | _ => none

def partType (v : TypeView) (t : Ty) : Ty :=
  match v.body ((v.pointee? t).getD t) with
  | .other (.array _ elem) => .slice elem
  | _ => t

/-- The offset of a field among the fields of types with their own offsets, or of structs embedded in
them. -/
def fieldOffset? (v : TypeView) (id : MemberId) : Nat → List (Nat × Ty) → Option Nat
  | 0, _ => none
  | _, [] => none
  | fuel + 1, level =>
    let fields := level.flatMap fun (start, t) => match v.body ((v.pointee? t).getD t) with
      | .struct fields =>
        let offsets := (offsetsFrom 0 (fields.map fun f => extent v.body fuel f.type)).1
        (offsets.map (start + ·)).zip fields
      | _ => []
    match fields.find? (·.2.id = id) with
    | some (offset, _) => some offset
    | none =>
      v.fieldOffset? id fuel ((fields.filter (·.2.isEmbedded)).map fun (offset, f) => (offset, f.type))

/-- The member of an operand: a field or method of a value, or a method of a type as a function of the
receiver. -/
def member? (v : TypeView) (depth : Nat) (id : MemberId) : Operand → Option Operand
  | .type t => match v.lookup depth t true id with
    | some (.method m) => match m.sig with
      | .func params results isVariadic => some (.typed (.func (t :: params) results isVariadic))
      | _ => none
    | _ => none
  | o => o.valueType?.bind fun t => match v.lookup depth t true id with
    | some (.method m) => some (.typed m.sig)
    | some (.field f) => some (.typed f.type)
    | none => none

/-- The first of constants and then the one that each further one is compared with. -/
def extreme? (v : TypeView) (op : String) : Operand → List Operand → Option Operand
  | best, [] => some best
  | best, next :: rest =>
    match v.match? best next with
    | some (t, x, y) =>
      let isBetter := (ConstValue.compare? op y x).getD false
      v.extreme? op (v.ofType t (if isBetter then y else x)) rest
    | none => (common? best next).bind fun t => v.extreme? op (.value t) rest

def complexPart? (v : TypeView) (isReal : Bool) (a : Operand) : Option Operand :=
  let partOf (t : Ty) : Ty := .basic (if v.basic? t = some .complex64 then .float32 else .float64)
  match a with
  | .const t (.number re im) =>
    let value : ConstValue := .number (if isReal then re else im) 0
    match t with
    | .untyped _ => some (.const (.untyped .float) value)
    | .typed t => some (v.inType (partOf t) value)
  | a => a.valueType?.map fun t => .typed (partOf t)

def complex? (v : TypeView) (a b : Operand) : Option Operand :=
  let typeOf (t : Ty) : Ty := .basic (if v.basic? t = some .float32 then .complex64 else .complex128)
  match v.match? a b with
  | some (t, .number re _, .number im _) =>
    let value : ConstValue := .number re im
    match t with
    | .untyped _ => some (.const (.untyped .complex) value)
    | .typed t => some (v.inType (typeOf t) value)
  | _ => (common? a b).map fun t => .typed (typeOf t.type)

def builtin? (v : TypeView) (fuel : Nat) (name : String) (args : List Operand) : Option Operand :=
  let size (f : Extent → Nat) : Option Operand :=
    (args.head?.bind Operand.valueType?).map fun t =>
      .const (.typed (.basic .uintptr)) (.ofInt (f (extent v.body fuel t)))
  match name, args with
  | "len", [.const _ (.text b)] => some (.int b.length)
  | "len", [a] | "cap", [a] => some (match a.valueType?.bind v.arrayLength? with
    | some n => .int n
    | none => .typed (.basic .int))
  | "min", a :: rest => v.extreme? "<" a rest
  | "max", a :: rest => v.extreme? ">" a rest
  | "real", [a] => v.complexPart? true a
  | "imag", [a] => v.complexPart? false a
  | "complex", [a, b] => v.complex? a b
  | "new", [.type t] => some (.typed (.pointer t))
  | "new", [a] => a.valueType?.map fun t => .typed (.pointer t)
  | "make", .type t :: _ => some (.typed t)
  | "append", a :: _ => a.valueType?.map .typed
  | "copy", _ => some (.typed (.basic .int))
  | "recover", _ => some (.typed (Body.interface {}).type)
  | "Sizeof", _ => size Extent.size
  | "Alignof", _ => size Extent.alignment
  | "Add", _ => some (.typed (.basic .unsafePointer))
  | "Slice", a :: _ => (a.valueType?.bind v.pointee?).map fun t => .typed (.slice t)
  | "SliceData", [a] => a.valueType?.bind fun t => match v.body t with
    | .other (.slice elem) => some (.typed (.pointer elem))
    | _ => none
  | "String", _ => some (.typed (.basic .string))
  | "StringData", _ => some (.typed (.pointer (.basic .uint8)))
  | _, _ => none

/-- A value as a value of another type. A constant stays one in a type of constants. -/
def conversion (v : TypeView) (t : Ty) : Operand → Operand
  | .const _ value => v.inType t value
  | _ => .typed t

end TypeView

end ServiceAnnotations.Types
