import ServiceAnnotations.Registry.MemoryHost
import ServiceAnnotations.Registry.Registrar

/-! # Hosts with files

What the registrar relies on when it reads and writes: a file shows what stands in it, and writing to
one path leaves the others alone. Whether a call succeeds is left to the host. -/
namespace ServiceAnnotations.Registry

variable {τ σ : Type}

/-- Whether a reading is true of what stands at its path. A file may fail to open or to be read
whatever stands there. -/
def Reading.Shows : Reading → Option Bytes → Prop
  | .absent, shown => shown = none
  | .content data, shown => shown = some data
  | .notOpened _, _ | .notRead _, _ => True

/-- A view of the files of a host. -/
structure FileStore (h : Host τ σ) where
  content : σ → Bytes → Option Bytes
  content_isSubtype : ∀ t interface files,
    content (h.isSubtype t interface files).2 = content files
  content_isErasedSubtype : ∀ t interface files,
    content (h.isErasedSubtype t interface files).2 = content files
  content_read : ∀ path files, content (h.read path files).2 = content files
  shows_read : ∀ {path files reading}, (h.read path files).1 = .ok reading →
    reading.Shows (content files path)
  content_write : ∀ {path data files}, (h.write path data files).1 = none →
    content (h.write path data files).2 path = some data
  content_write_of_ne : ∀ {path path' : Bytes} (data files), path' ≠ path →
    content (h.write path data files).2 path' = content files path'

/-- From files that satisfy `ok` on, every write succeeds and reading does not break down. -/
structure Host.Writes (h : Host τ σ) (ok : σ → Prop) : Prop where
  read : ∀ {files} path, ok files → ∃ reading, (h.read path files).1 = .ok reading
  ok_read : ∀ {files} path, ok files → ok (h.read path files).2
  write : ∀ {files} path data, ok files → (h.write path data files).1 = none
  ok_write : ∀ {files} path data, ok files → ok (h.write path data files).2

namespace MemoryFiles

/-- The files in memory. -/
def store (f : TypeFacts) : FileStore (memoryHost f) where
  content m path := m.contents.get? path
  content_isSubtype _ _ _ := rfl
  content_isErasedSubtype _ _ _ := rfl
  content_read _ _ := rfl
  shows_read := by
    intro path m reading h
    simp only [memoryHost, read] at h
    split at h
    · cases h
    · cases h
      trivial
    · split at h
      · cases h
        assumption
      · split at h
        · cases h
          trivial
        · cases h
          assumption
  content_write := by
    intro path data m h
    simp only [memoryHost, write] at h ⊢
    split at h
    · cases h
    · split at h
      · cases h
      · simp_all [ByteMap.get?_insert]
  content_write_of_ne := by
    intro path path' data m hne
    simp only [memoryHost, write]
    split
    · rfl
    · split <;> simp [ByteMap.get?_insert, hne]

/-- Files in memory that can be written and do not break down. They may still fail to be opened or
read. -/
def Writable (m : MemoryFiles) : Prop :=
  ∀ path, m.faults.creating.get? path = none ∧ m.faults.writing.get? path = none ∧
    m.faults.closing.get? path = none ∧ m.faults.breaking.get? path = none

theorem writes_memoryHost (f : TypeFacts) : (memoryHost f).Writes Writable where
  read := by
    intro m path hm
    simp only [memoryHost, read, (hm path).2.2.2]
    split
    · contradiction
    · exact ⟨_, rfl⟩
    · exact ⟨_, rfl⟩
  ok_read _ hm := hm
  write := by
    intro m path data hm
    simp [memoryHost, write, hm path]
  ok_write := by
    intro m path data hm
    simp only [memoryHost, write, hm path]
    exact hm

end MemoryFiles
end ServiceAnnotations.Registry
