import ServiceAnnotations.Types.Basic

/-! # Sizes of values in memory

A value starts at a multiple of its alignment. A word has eight bytes. -/
namespace ServiceAnnotations.Types

/-- The first multiple of `unit` that is not below `n`. -/
def alignUp (n unit : Nat) : Nat := (n + unit - 1) / unit * unit

namespace Basic

def size : Basic → Nat
  | bool | int8 | uint8 => 1
  | int16 | uint16 => 2
  | int32 | uint32 | float32 => 4
  | int | int64 | uint | uint64 | uintptr | float64 | complex64 | unsafePointer => 8
  | complex128 | string => 16
  | invalid => 8

def alignment : Basic → Nat
  | complex64 => 4
  | complex128 | string => 8
  | b => b.size

def unsignedWidth? : Basic → Option Nat
  | uint8 => some 8
  | uint16 => some 16
  | uint32 => some 32
  | uint | uint64 | uintptr => some 64
  | _ => none

end Basic

structure Extent where
  size : Nat
  alignment : Nat
  deriving DecidableEq, Repr

def offsetsFrom (start : Nat) : List Extent → List Nat × Nat
  | [] => ([], start)
  | e :: rest =>
    let offset := alignUp start e.alignment
    let (offsets, stop) := offsetsFrom (offset + e.size) rest
    (offset :: offsets, stop)

/-- The extent of a struct. A last field without a size is followed by one byte, so that its address lies
inside. -/
def structExtent (fields : List Extent) : Extent :=
  let alignment := (fields.map Extent.alignment).foldl max 1
  let stop := (offsetsFrom 0 fields).2
  let isPadded := 0 < stop && (fields.getLast?.map Extent.size) = some 0
  ⟨alignUp (if isPadded then stop + 1 else stop) alignment, alignment⟩

def extent (body : Ty → Body) : Nat → Ty → Extent
  | 0, _ => ⟨0, 1⟩
  | fuel + 1, t =>
    match body t with
    | .struct fields => structExtent (fields.map fun f => extent body fuel f.type)
    | .interface _ => ⟨16, 8⟩
    | .other (.basic b) => ⟨b.size, b.alignment⟩
    | .other (.array length elem) =>
      let e := extent body fuel elem
      ⟨length * e.size, e.alignment⟩
    | .other (.slice _) => ⟨24, 8⟩
    | .other _ => ⟨8, 8⟩

end ServiceAnnotations.Types
