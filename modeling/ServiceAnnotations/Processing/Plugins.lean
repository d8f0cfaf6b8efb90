import ServiceAnnotations.Text.Quoted

/-! # Processors by name -/
namespace ServiceAnnotations.Processing

/-- The processors that come with the program. -/
inductive ProcessorKind | immutable | services | setters | toStrings
  deriving DecidableEq, Repr

/-- Things with names, in the order in which the names came up first. -/
abbrev Plugins (α : Type) := List (Bytes × α)

def builtin : Plugins ProcessorKind :=
  [("immutable", .immutable), ("services", .services), ("setters", .setters),
   ("tostring", .toStrings)]

namespace Plugins
variable {α : Type}

/-- Gives a name to a processor. A name that is taken now stands for the new one, in the same place. -/
def register (name : Bytes) (a : α) : Plugins α → Plugins α
  | [] => [(name, a)]
  | (other, b) :: rest =>
    if other = name then (name, a) :: rest else (other, b) :: register name a rest

def names (ps : Plugins α) : List Bytes := ps.map Prod.fst

def get? (ps : Plugins α) (name : Bytes) : Option α := (ps.find? (·.1 = name)).map Prod.snd

/-- The processors with the given names. A name may occur more than once. -/
def create (ps : Plugins α) : List Bytes → Except Bytes (List α)
  | [] => .ok []
  | name :: rest =>
    match ps.get? name with
    | none => .error (Bytes.ofString ("no processor named " ++ Text.Quoted.bytes name))
    | some a => (create ps rest).map (a :: ·)

end Plugins
end ServiceAnnotations.Processing
