import ServiceAnnotations.Registry.Diagnostic

/-! # What a host provides

A host answers questions about its types, gives access to files and listens to what it is told. What
changes about it, its files above all, is a value of type `σ`, which every call may change. -/
namespace ServiceAnnotations.Registry

/-- What comes of opening and reading a file. -/
inductive Reading
  | absent
  | notOpened (cause : Bytes)
  | notRead (cause : Bytes)
  | content (data : Bytes)
  deriving DecidableEq, Repr

/-- The parts of writing a file. Creating it opens it for writing. -/
inductive WriteStage | create | write | close
  deriving DecidableEq, Repr

def WriteStage.message (stage : WriteStage) (cause : Bytes) : Bytes :=
  match stage with
  | write => FileError.message { action := "write", cause }
  | create | close => cause

structure WriteFailure where
  stage : WriteStage
  failure : Failure
  deriving DecidableEq, Repr

structure Host (τ σ : Type) where
  /-- Whether a type conforms to an interface. -/
  isSubtype : τ → τ → σ → Except Failure Bool × σ
  /-- Whether a type conforms to an interface for some choice of its type parameters. -/
  isErasedSubtype : τ → τ → σ → Except Failure Bool × σ
  /-- Reads a file, or breaks down. -/
  read : Bytes → σ → Except Bytes Reading × σ
  /-- Puts a content in place of a file's content. -/
  write : Bytes → Bytes → σ → Option WriteFailure × σ

inductive Query (τ : Type)
  | exact (provider interface : τ)
  | erased (provider interface : τ)
  deriving DecidableEq, Repr

/-- What can be seen of a run, in the order in which it happens. -/
inductive Event (τ : Type)
  /-- A diagnostic is reported. -/
  | message (m : Message τ)
  /-- A note is logged, whether or not it is reported. -/
  | logged (d : Diagnostic)
  /-- A failure is logged. -/
  | loggedFailure (cause : Bytes)
  /-- A finished service file is logged, with the number of its names. -/
  | loggedWrite (path : Bytes) (count : Nat)
  | asked (q : Query τ)
  /-- A file is read, with what came of it unless the host broke down. -/
  | read (path : Bytes) (reading : Option Reading)
  /-- A file is written, or fails to be. -/
  | wrote (path : Bytes) (failure : Option WriteFailure)

/-- The file that an event opens for writing. It is not opened if it cannot be created. -/
def Event.opened? {τ : Type} : Event τ → Option Bytes
  | .wrote path failure => if failure.any (·.stage = .create) then none else some path
  | _ => none

/-- What a host makes of what it is told, in a message or in its log. It may break down over it. -/
abbrev Listener (τ σ : Type) := Event τ → σ → Option Bytes × σ

def Listener.attentive {τ σ : Type} : Listener τ σ := fun _ files => (none, files)

end ServiceAnnotations.Registry
