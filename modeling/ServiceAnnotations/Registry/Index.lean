import ServiceAnnotations.Text.ByteMap

/-! # The providers found so far -/
namespace ServiceAnnotations.Registry

/-- The providers of each interface. An interface without providers has no entry. -/
abbrev Index := ByteMap NameSet

namespace Index

def add (idx : Index) (interface provider : Bytes) : Index :=
  idx.alter interface fun providers => (providers.getD ∅).insert provider

/-- The interfaces in ascending order, each with its providers in ascending order. -/
def rows (idx : Index) : List (Bytes × List Bytes) := idx.entries.map fun e => (e.1, e.2.toList)

def providers? (idx : Index) (interface : Bytes) : Option (List Bytes) :=
  (idx.get? interface).map NameSet.toList

end Index
end ServiceAnnotations.Registry
