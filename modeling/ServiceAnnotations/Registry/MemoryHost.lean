import ServiceAnnotations.Registry.Host
import ServiceAnnotations.Text.ByteMap

/-! # A host in memory

Types are names, the subtype relations are lists of pairs, and every access can be made to fail. -/
namespace ServiceAnnotations.Registry

structure Faults where
  /-- Opening a file for reading. -/
  opening : ByteMap Bytes := ∅
  /-- Reading an open file. -/
  reading : ByteMap Bytes := ∅
  creating : ByteMap Bytes := ∅
  writing : ByteMap Bytes := ∅
  /-- Closing a file after writing. -/
  closing : ByteMap Bytes := ∅
  /-- Opening a file for reading, where the host breaks down. -/
  breaking : ByteMap Bytes := ∅

/-- Files in memory, and the accesses to them that fail. -/
structure MemoryFiles where
  contents : ByteMap Bytes := ∅
  faults : Faults := {}

namespace MemoryFiles

def read (m : MemoryFiles) (path : Bytes) : Except Bytes Reading :=
  match m.faults.breaking.get? path, m.faults.opening.get? path with
  | some cause, _ => .error cause
  | none, some cause => .ok (.notOpened cause)
  | none, none =>
    .ok <| match m.contents.get? path with
      | none => .absent
      | some data => match m.faults.reading.get? path with
        | some cause => .notRead cause
        | none => .content data

/-- Creating a file empties it at once. What was written is kept when the file is closed, even if
closing fails. -/
def write (path content : Bytes) (m : MemoryFiles) : Option WriteFailure × MemoryFiles :=
  match m.faults.creating.get? path with
  | some cause => (some ⟨.create, .error cause⟩, m)
  | none =>
    match m.faults.writing.get? path with
    | some cause => (some ⟨.write, .error cause⟩, { m with contents := m.contents.insert path [] })
    | none =>
      ((m.faults.closing.get? path).map fun cause => ⟨.close, .error cause⟩,
        { m with contents := m.contents.insert path content })

end MemoryFiles

structure TypeFacts where
  exact : List (Bytes × Bytes) := []
  raw : List (Bytes × Bytes) := []
  exactError : Option Bytes := none
  erasedError : Option Bytes := none
  /-- The host breaks down on the exact question. -/
  exactBreak : Option Bytes := none

namespace TypeFacts

def isSubtype (f : TypeFacts) (t interface : Bytes) : Except Failure Bool :=
  match f.exactBreak, f.exactError with
  | some cause, _ => .error (.broken cause)
  | none, some cause => .error (.error cause)
  | none, none => .ok (f.exact.contains (t, interface))

def isErasedSubtype (f : TypeFacts) (t interface : Bytes) : Except Failure Bool :=
  match f.erasedError with
  | some cause => .error (.error cause)
  | none => .ok (f.exact.contains (t, interface) || f.raw.contains (t, interface))

end TypeFacts

def memoryHost (f : TypeFacts) : Host Bytes MemoryFiles where
  isSubtype t interface m := (f.isSubtype t interface, m)
  isErasedSubtype t interface m := (f.isErasedSubtype t interface, m)
  read path m := (m.read path, m)
  write := MemoryFiles.write

end ServiceAnnotations.Registry
