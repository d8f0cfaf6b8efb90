import ServiceAnnotations.Elements.Model
import ServiceAnnotations.Text.ByteMap

/-! # Elements with annotations

Elements are listed in the order in which they are found. Those with annotations of a type can be looked up. -/
namespace ServiceAnnotations.Elements
open Registry ServiceAnnotations.Types

/-- An annotated element. -/
structure Found where
  element : SourceElement
  /-- The type that it declares. -/
  type : Option TypeName

/-- The elements of a package, and the elements with annotations of each type. -/
structure Listing where
  elements : List Found := []
  byType : ByteMap (List Found) := ∅

namespace Listing

/-- Enters an element for the types of its annotations, once for each type that was not seen before. -/
def enter (f : Found) (seen : List Bytes) (byType : ByteMap (List Found)) :
    List SourceAnnot → ByteMap (List Found)
  | [] => byType
  | a :: rest =>
    if seen.contains a.type then enter f seen byType rest
    else enter f (a.type :: seen) (byType.alter a.type fun fs => fs.getD [] ++ [f]) rest

def add (l : Listing) (f : Found) : Listing where
  elements := l.elements ++ [f]
  byType := enter f [] l.byType f.element.annots

def of (found : List Found) : Listing := found.foldl add {}

def annotatedWith (l : Listing) (type : Bytes) : List Found := (l.byType.get? type).getD []

theorem get?_enter (f : Found) (type : Bytes) (annots : List SourceAnnot) (seen : List Bytes)
    (byType : ByteMap (List Found)) :
    (enter f seen byType annots).get? type =
      if type ∉ seen ∧ annots.any (·.type = type) then some ((byType.get? type).getD [] ++ [f])
      else byType.get? type := by
  induction annots generalizing seen byType with
  | nil => simp [enter]
  | cons a rest ih =>
    rw [enter]
    by_cases hseen : a.type ∈ seen
    · rw [if_pos (List.contains_iff_mem.mpr hseen), ih]
      by_cases htype : a.type = type
      · simp [← htype, hseen]
      · simp [htype]
    · rw [if_neg (fun hcontains => hseen (List.contains_iff_mem.mp hcontains)), ih, ByteMap.get?_alter]
      by_cases htype : a.type = type
      · simp [← htype, hseen]
      · simp [htype, Ne.symm htype]

theorem annotatedWith_add (l : Listing) (f : Found) (type : Bytes) :
    (l.add f).annotatedWith type = l.annotatedWith type ++ [f].filter (·.element.isAnnotatedWith type) := by
  rw [annotatedWith, add, get?_enter]
  cases hcarries : f.element.annots.any (·.type = type) <;>
    simp [annotatedWith, Element.isAnnotatedWith, hcarries]

theorem elements_foldl_add (found : List Found) (l : Listing) :
    (found.foldl add l).elements = l.elements ++ found := by
  induction found generalizing l with
  | nil => simp
  | cons f found ih => rw [List.foldl_cons, ih, add, List.append_assoc, List.singleton_append]

theorem annotatedWith_foldl_add (found : List Found) (l : Listing) (type : Bytes) :
    (found.foldl add l).annotatedWith type =
      l.annotatedWith type ++ found.filter (·.element.isAnnotatedWith type) := by
  induction found generalizing l with
  | nil => simp
  | cons f found ih =>
    rw [List.foldl_cons, ih, annotatedWith_add, List.append_assoc, ← List.filter_append, List.singleton_append]

/-- Elements are looked up among those that were added, in their order. -/
theorem annotatedWith_of (found : List Found) (type : Bytes) :
    (of found).annotatedWith type = found.filter (·.element.isAnnotatedWith type) :=
  annotatedWith_foldl_add found {} type

end Listing
end ServiceAnnotations.Elements
