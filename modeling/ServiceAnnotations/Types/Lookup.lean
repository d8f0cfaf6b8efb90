import ServiceAnnotations.Types.View

/-! # Fields and methods of a type

A field or method is looked for in a type and then in the types it embeds, level by level. Of a name that
occurs more than once on the first level where it occurs there is no field or method. -/
namespace ServiceAnnotations.Types

inductive Member
  | field (f : StructField)
  | method (m : Method)
  deriving Repr

def Member.place : Member → Option Source.Place
  | field f => f.place
  | method m => m.place

structure Candidate where
  type : Ty
  /-- Whether a pointer leads to it. -/
  isIndirect : Bool
  /-- Whether it occurs more than once on its level. -/
  isMultiple : Bool

def deref : Ty → Ty × Bool
  | .pointer t => (t, true)
  | t => (t, false)

/-- The state of the search on one level: what was found, and the types of the next level. -/
inductive Level
  | collision
  | searched (found : Option (Member × Bool)) (next : List Candidate) (seen : List Ty)

/-- Records a find on a level; a second one is a collision. -/
def Level.find (c : Candidate) (member : Member) (found : Option (Member × Bool))
    (next : List Candidate) (seen : List Ty) : Level :=
  if found.isSome || c.isMultiple then .collision
  else .searched (some (member, c.isIndirect)) next seen

/-- The types that fields embed. -/
def embeddedCandidates (c : Candidate) (fields : List StructField) : List Candidate :=
  fields.filterMap fun f =>
    if f.isEmbedded then
      let (type, isPointer) := deref f.type
      some ⟨type, c.isIndirect || isPointer, c.isMultiple⟩
    else none

/-- Adds a type to a level, where it becomes multiple if it is there already. -/
def addCandidate (level : List Candidate) (c : Candidate) : List Candidate :=
  if level.any (·.type = c.type) then
    level.map fun d => if d.type = c.type then { d with isMultiple := true } else d
  else level ++ [c]

def mergeMultiples (level : List Candidate) : List Candidate := level.foldl addCandidate []

namespace TypeView

def searchType (v : TypeView) (id : MemberId) (c : Candidate)
    (found : Option (Member × Bool)) (next : List Candidate) (seen : List Ty) : Level :=
  let own : Option Method := match c.type with
    | .named name args => (v.methods name args).find? fun m => m.id = id
    | _ => none
  match own with
  | some m => .find c (.method m) found next seen
  | none =>
    match v.body c.type with
    | .struct fields =>
      match fields.find? fun f => f.id = id with
      | some f => .find c (.field f) found next seen
      | none =>
        .searched found (if found.isNone then next ++ embeddedCandidates c fields else next) seen
    | .interface set =>
      match set.methods.find? fun m => m.id = id with
      | some m => .find c (.method m) found next seen
      | none => .searched found next seen
    | .other _ => .searched found next seen

/-- Searches the types of one level. A named type that was searched before is left out. -/
def searchLevel (v : TypeView) (id : MemberId) :
    List Candidate → Option (Member × Bool) → List Candidate → List Ty → Level
  | [], found, next, seen => .searched found next seen
  | c :: rest, found, next, seen =>
    let isNamed := match c.type with
      | .named _ _ => true
      | _ => false
    if isNamed && seen.contains c.type then v.searchLevel id rest found next seen
    else
      let seen := if isNamed then c.type :: seen else seen
      match v.searchType id c found next seen with
      | .collision => .collision
      | .searched found next seen => v.searchLevel id rest found next seen

def searchLevels (v : TypeView) (id : MemberId) :
    Nat → List Candidate → List Ty → Option (Member × Bool)
  | 0, _, _ => none
  | _, [], _ => none
  | fuel + 1, level, seen =>
    match v.searchLevel id level none [] seen with
    | .collision => none
    | .searched (some found) _ _ => some found
    | .searched none next seen => v.searchLevels id fuel (mergeMultiples next) seen

/-- The field or method of a type with a name, looked for on `depth` levels. A method that needs a pointer
is there only if a pointer leads to it or the value has an address. A declared pointer type has only
fields. -/
def lookup (v : TypeView) (depth : Nat) (t : Ty) (hasAddress : Bool) (id : MemberId) : Option Member :=
  if id.name = "_" then none
  else
    let declaredPointee := match t with
      | .named _ _ => v.pointee? t
      | _ => none
    let (type, isPointer) := match declaredPointee with
      | some elem => (elem, true)
      | none => deref t
    let isInterface := match v.body type with
      | .interface _ => true
      | _ => false
    if isPointer && isInterface then none
    else match v.searchLevels id depth [⟨type, isPointer, false⟩] [] with
      | some (.method m, isIndirect) =>
        if declaredPointee.isSome || m.isPointer && !isIndirect && !hasAddress then none
        else some (.method m)
      | some (.field f, _) => some (.field f)
      | none => none

end TypeView

end ServiceAnnotations.Types
