import ServiceAnnotations.Types.Resolve

/-! # Lookup and pointers

The methods of a pointer to a type are those that can be called on values of the type that have addresses. Whether
pointers lead to a type decides if its methods can be called, but not which members are found. The methods of an
interface are found in it, and so are the members of a struct without embedded fields. -/
namespace ServiceAnnotations.Types

section
variable {α κ : Type} [DecidableEq κ] {key : α → κ} {as : List α}

theorem find?_key_of_nodup (h : (as.map key).Nodup) {a : α} (ha : a ∈ as) :
    (as.find? fun b => key b = key a) = some a := by
  induction as with
  | nil => cases ha
  | cons b as ih =>
    rw [List.map_cons, List.nodup_cons] at h
    rcases List.mem_cons.mp ha with rfl | ha
    · simp
    · have hne : key b ≠ key a := fun heq => h.1 (heq ▸ List.mem_map_of_mem ha)
      rw [List.find?_cons_of_neg (by simpa using hne)]
      exact ih h.2 ha

/-- It is enough that keys tell apart the items that may have the key. -/
theorem find?_key_of_nodup_filter {q : α → Bool} (h : ((as.filter q).map key).Nodup) {a : α} (ha : a ∈ as)
    (hq : ∀ b, key b = key a → q b) : (as.find? fun b => key b = key a) = some a := by
  have hfilter : (as.find? fun b => key b = key a) = (as.filter q).find? fun b => key b = key a := by
    rw [List.find?_filter]
    congr 1
    funext b
    by_cases hb : key b = key a <;> simp [hb, hq]
  rw [hfilter]
  exact find?_key_of_nodup h (List.mem_filter.mpr ⟨ha, hq a rfl⟩)

theorem any_find?_key_iff (h : (as.map key).Nodup) (k : κ) (q : α → Bool) :
    (as.find? fun a => key a = k).any q = true ↔ ∃ a ∈ as, key a = k ∧ q a = true := by
  constructor
  · intro hany
    obtain ⟨a, ha, hq⟩ := (Option.any_eq_true _ _).mp hany
    have hkey := List.find?_some ha
    exact ⟨a, List.mem_of_find?_eq_some ha, of_decide_eq_true hkey, hq⟩
  · rintro ⟨a, ha, rfl, hq⟩
    rw [find?_key_of_nodup h ha]
    exact hq

end

def Candidate.shape (c : Candidate) : Ty × Bool := (c.type, c.isMultiple)

def Level.shape : Level → Option (Option Member × List (Ty × Bool) × List Ty)
  | collision => none
  | searched found next seen => some (found.map Prod.fst, next.map Candidate.shape, seen)

theorem Level.cases_of_shape_eq {l l' : Level} (h : l.shape = l'.shape) :
    (l = .collision ∧ l' = .collision) ∨ ∃ found found' next next' seen, l = .searched found next seen ∧
      l' = .searched found' next' seen ∧ found.map Prod.fst = found'.map Prod.fst ∧
      next.map Candidate.shape = next'.map Candidate.shape := by
  cases l with
  | collision => cases l' with
    | collision => exact .inl ⟨rfl, rfl⟩
    | searched found' next' seen' => cases h
  | searched found next seen => cases l' with
    | collision => cases h
    | searched found' next' seen' =>
      obtain ⟨hfound, hnext, rfl⟩ := by simpa only [shape, Option.some.injEq, Prod.mk.injEq] using h
      exact .inr ⟨found, found', next, next', seen, rfl, rfl, hfound, hnext⟩

section
variable {c c' : Candidate} {found found' : Option (Member × Bool)} {next next' level level' : List Candidate}

theorem Level.find_shape (hc : c.shape = c'.shape) (hfound : found.map Prod.fst = found'.map Prod.fst)
    (hnext : next.map Candidate.shape = next'.map Candidate.shape) (member : Member) (seen : List Ty) :
    (find c member found next seen).shape = (find c' member found' next' seen).shape := by
  have hsome : found.isSome = found'.isSome := by
    rw [← Option.isSome_map, hfound, Option.isSome_map]
  have hmultiple : c.isMultiple = c'.isMultiple := congrArg Prod.snd hc
  unfold find
  rw [hsome, hmultiple]
  split
  · rfl
  · simp [shape, hnext]

theorem embeddedCandidates_shape (hc : c.shape = c'.shape) (fields : List StructField) :
    (embeddedCandidates c fields).map Candidate.shape =
      (embeddedCandidates c' fields).map Candidate.shape := by
  have hmultiple : c.isMultiple = c'.isMultiple := congrArg Prod.snd hc
  induction fields with
  | nil => rfl
  | cons f fields ih =>
    unfold embeddedCandidates at ih ⊢
    cases hf : f.isEmbedded with
    | false => simpa [hf] using ih
    | true => simpa [hf, Candidate.shape, hmultiple] using ih

end

def addShape (level : List (Ty × Bool)) (s : Ty × Bool) : List (Ty × Bool) :=
  if level.any (·.1 = s.1) then level.map fun d => if d.1 = s.1 then (d.1, true) else d
  else level ++ [s]

theorem map_shape_addCandidate (level : List Candidate) (c : Candidate) :
    (addCandidate level c).map Candidate.shape = addShape (level.map Candidate.shape) c.shape := by
  have hany : (level.map Candidate.shape).any (·.1 = c.shape.1) = level.any (·.type = c.type) := by
    rw [List.any_map]
    rfl
  unfold addCandidate addShape
  rw [hany]
  split
  · rw [List.map_map, List.map_map]
    refine List.map_congr_left fun d _ => ?_
    by_cases hd : d.type = c.type <;> simp [Candidate.shape, hd]
  · rw [List.map_append]
    rfl

theorem mergeMultiples_shape {level level' : List Candidate}
    (hlevel : level.map Candidate.shape = level'.map Candidate.shape) :
    (mergeMultiples level).map Candidate.shape = (mergeMultiples level').map Candidate.shape := by
  have hfold (level acc : List Candidate) : (level.foldl addCandidate acc).map Candidate.shape =
      (level.map Candidate.shape).foldl addShape (acc.map Candidate.shape) := by
    rw [List.foldl_map]
    exact (List.foldl_hom (List.map Candidate.shape) fun acc c => (map_shape_addCandidate acc c).symm).symm
  rw [mergeMultiples, mergeMultiples, hfold, hfold, hlevel]

namespace TypeView
variable (v : TypeView) (id : MemberId)

theorem searchType_shape {c c' : Candidate} {found found' : Option (Member × Bool)}
    {next next' : List Candidate} (hc : c.shape = c'.shape)
    (hfound : found.map Prod.fst = found'.map Prod.fst)
    (hnext : next.map Candidate.shape = next'.map Candidate.shape) (seen : List Ty) :
    (v.searchType id c found next seen).shape = (v.searchType id c' found' next' seen).shape := by
  have htype : c.type = c'.type := congrArg Prod.fst hc
  have hnone : found.isNone = found'.isNone := by
    rw [← Option.isNone_map, hfound, Option.isNone_map]
  have hfind (m : Member) := Level.find_shape hc hfound hnext m seen
  have hpass : (Level.searched found next seen).shape = (Level.searched found' next' seen).shape := by
    simp only [Level.shape, hfound, hnext]
  simp only [searchType, htype]
  split
  · exact hfind _
  · split
    · split
      · exact hfind _
      · rename_i fields _ _ _
        simp only [Level.shape, hfound, hnone, Option.some.injEq, Prod.mk.injEq, true_and, and_true]
        split
        · rw [List.map_append, List.map_append, hnext, embeddedCandidates_shape hc fields]
        · exact hnext
    · split
      · exact hfind _
      · exact hpass
    · exact hpass

def isNamed : Ty → Bool
  | .named _ _ => true
  | _ => false

theorem searchLevel_cons (c : Candidate) (rest : List Candidate) (found : Option (Member × Bool))
    (next : List Candidate) (seen : List Ty) :
    v.searchLevel id (c :: rest) found next seen =
      if isNamed c.type && seen.contains c.type then v.searchLevel id rest found next seen
      else match v.searchType id c found next (if isNamed c.type then c.type :: seen else seen) with
        | .collision => .collision
        | .searched found next seen => v.searchLevel id rest found next seen := by
  simp only [searchLevel, isNamed]
  cases c.type <;> rfl

theorem searchLevel_shape {level level' : List Candidate} {found found' : Option (Member × Bool)}
    {next next' : List Candidate} (hlevel : level.map Candidate.shape = level'.map Candidate.shape)
    (hfound : found.map Prod.fst = found'.map Prod.fst)
    (hnext : next.map Candidate.shape = next'.map Candidate.shape) (seen : List Ty) :
    (v.searchLevel id level found next seen).shape = (v.searchLevel id level' found' next' seen).shape := by
  induction level generalizing level' found found' next next' seen with
  | nil =>
    obtain rfl : level' = [] := by simpa using hlevel.symm
    simp only [searchLevel, Level.shape, hfound, hnext]
  | cons c level ih =>
    obtain ⟨c', level', rfl, hc, hlevel⟩ := List.map_eq_cons_iff.mp hlevel.symm
    have htype : c.type = c'.type := congrArg Prod.fst hc.symm
    simp only [searchLevel_cons, htype]
    by_cases hseen : (isNamed c'.type && seen.contains c'.type) = true
    · rw [if_pos hseen, if_pos hseen]
      exact ih hlevel.symm hfound hnext seen
    · rw [if_neg hseen, if_neg hseen]
      generalize (if isNamed c'.type = true then c'.type :: seen else seen) = seen'
      obtain ⟨hl, hl'⟩ | ⟨found₁, found₁', next₁, next₁', seen₁, hl, hl', hfound₁, hnext₁⟩ :=
        Level.cases_of_shape_eq (v.searchType_shape id hc.symm hfound hnext seen')
      · rw [hl, hl']
      · rw [hl, hl']
        exact ih hlevel.symm hfound₁ hnext₁ seen₁

/-- The same members are found by way of pointers. -/
theorem searchLevels_shape (depth : Nat) {level level' : List Candidate}
    (hlevel : level.map Candidate.shape = level'.map Candidate.shape) (seen : List Ty) :
    (v.searchLevels id depth level seen).map Prod.fst =
      (v.searchLevels id depth level' seen).map Prod.fst := by
  induction depth generalizing level level' seen with
  | zero => rfl
  | succ depth ih =>
    cases level with
    | nil =>
      obtain rfl : level' = [] := by simpa using hlevel.symm
      rfl
    | cons c level =>
      obtain ⟨c', level', rfl, hc, hrest⟩ := List.map_eq_cons_iff.mp hlevel.symm
      have hshape : (v.searchLevel id (c :: level) none [] seen).shape =
          (v.searchLevel id (c' :: level') none [] seen).shape :=
        v.searchLevel_shape id hlevel rfl rfl seen
      obtain ⟨hl, hl'⟩ | ⟨found, found', next, next', seen', hl, hl', hfound, hnext⟩ :=
        Level.cases_of_shape_eq hshape
      · simp only [searchLevels, hl, hl']
      · simp only [searchLevels, hl, hl']
        cases found with
        | none => cases found' with
          | none => exact ih (mergeMultiples_shape hnext) seen'
          | some member' => cases hfound
        | some member => cases found' with
          | none => cases hfound
          | some member' => exact hfound

end TypeView

namespace Body

def isPointer : Body → Bool
  | .other (.pointer _) => true
  | _ => false

def isInterface : Body → Bool
  | .interface _ => true
  | _ => false

/-- The method of an interface with a name. -/
def method? (id : MemberId) : Body → Option Method
  | .interface set => set.methods.find? fun m => m.id = id
  | _ => none

end Body

def TypeView.declaredPointee? (v : TypeView) : Ty → Option Ty
  | .named n args => v.pointee? (.named n args)
  | _ => none

theorem TypeView.lookup_eq (v : TypeView) (depth : Nat) (t : Ty) (hasAddress : Bool) (id : MemberId) :
    v.lookup depth t hasAddress id =
      if id.name = "_" then none
      else
        let (type, isPointer) := match v.declaredPointee? t with
          | some elem => (elem, true)
          | none => deref t
        if isPointer && (v.body type).isInterface then none
        else match v.searchLevels id depth [⟨type, isPointer, false⟩] [] with
          | some (.method m, isIndirect) =>
            if (v.declaredPointee? t).isSome || m.isPointer && !isIndirect && !hasAddress then none
            else some (.method m)
          | some (.field f, _) => some (.field f)
          | none => none := by
  unfold lookup
  cases t <;> rfl

/-- When a type has a method. -/
theorem TypeView.lookup_eq_method_iff {v : TypeView} {depth : Nat} {t : Ty} {hasAddress : Bool}
    {id : MemberId} {k : Method} :
    v.lookup depth t hasAddress id = some (.method k) ↔
      id.name ≠ "_" ∧ v.declaredPointee? t = none ∧
      ((deref t).2 && (v.body (deref t).1).isInterface) = false ∧
      ∃ isIndirect, v.searchLevels id depth [⟨(deref t).1, (deref t).2, false⟩] [] =
        some (.method k, isIndirect) ∧ (k.isPointer && !isIndirect && !hasAddress) = false := by
  rw [TypeView.lookup_eq]
  by_cases hid : id.name = "_"
  · simp [hid]
  rw [if_neg hid]
  cases v.declaredPointee? t with
  | some elem =>
    dsimp only
    generalize v.searchLevels id depth [⟨elem, true, false⟩] [] = result
    rcases result with _ | ⟨_ | _, _⟩ <;> simp
  | none =>
    rcases deref t with ⟨type, isPointer⟩
    dsimp only
    generalize v.searchLevels id depth [⟨type, isPointer, false⟩] [] = result
    rcases result with _ | ⟨_ | m, isIndirect⟩
    · simp
    · simp
    · simp only [Option.isSome_none, Bool.false_or, Option.ite_none_left_eq_some, Option.some.injEq,
        Member.method.injEq, Prod.mk.injEq, Bool.not_eq_true]
      constructor
      · rintro ⟨hinterface, hpointer, rfl⟩
        exact ⟨hid, trivial, hinterface, isIndirect, ⟨rfl, rfl⟩, hpointer⟩
      · rintro ⟨-, -, hinterface, _, ⟨rfl, rfl⟩, hpointer⟩
        exact ⟨hinterface, hpointer, rfl⟩

section
variable {p : Program} {fuel : Nat} {t : Ty} {id : MemberId} {k : Method}

theorem body_pointer (p : Program) (fuel : Nat) (t : Ty) :
    body p fuel (.pointer t) = .other (.pointer t) := by
  cases fuel <;> simp [body]

theorem lookup_addressed (h : lookup p fuel t false id = some (.method k)) :
    lookup p fuel t true id = some (.method k) := by
  obtain ⟨hid, hdeclared, hinterface, isIndirect, hsearch, -⟩ := TypeView.lookup_eq_method_iff.mp h
  exact TypeView.lookup_eq_method_iff.mpr
    ⟨hid, hdeclared, hinterface, isIndirect, hsearch, by simp⟩

theorem deref_of_not_pointer (ht : (body p fuel t).isPointer = false) : deref t = (t, false) := by
  cases t with
  | pointer elem => simp [body_pointer, Body.isPointer] at ht
  | _ => rfl

theorem declaredPointee?_of_not_pointer (ht : (body p fuel t).isPointer = false) :
    (typeView p fuel).declaredPointee? t = none := by
  cases t with
  | named n args =>
    simp only [TypeView.declaredPointee?, TypeView.pointee?, typeView]
    split
    · simp_all [Body.isPointer]
    · rfl
  | _ => rfl

/-- The methods of a pointer to a type can be called on values of the type that have addresses. -/
theorem lookup_of_lookup_pointer (ht : (body p fuel t).isPointer = false)
    (h : lookup p fuel (.pointer t) false id = some (.method k)) :
    lookup p fuel t true id = some (.method k) := by
  obtain ⟨hid, -, -, isIndirect, hsearch, -⟩ := TypeView.lookup_eq_method_iff.mp h
  have hsame : some (.method k) =
      ((typeView p fuel).searchLevels id fuel [⟨t, false, false⟩] []).map Prod.fst := by
    have hfound := congrArg (Option.map Prod.fst) hsearch
    exact hfound.symm.trans ((typeView p fuel).searchLevels_shape id fuel (by rfl) [])
  obtain ⟨⟨_, isIndirect'⟩, hsearch', rfl⟩ := Option.map_eq_some_iff.mp hsame.symm
  refine TypeView.lookup_eq_method_iff.mpr
    ⟨hid, declaredPointee?_of_not_pointer ht, ?_, isIndirect', ?_, by simp⟩
  · rw [deref_of_not_pointer ht, Bool.false_and]
  · rw [deref_of_not_pointer ht]
    exact hsearch'

end

/-- What a program may declare: types that are pointers or interfaces have no methods of their own, and
the methods of an interface have names that tell them apart. -/
structure ValidReceiver (p : Program) (fuel : Nat) (t : Ty) : Prop where
  own : ∀ {n args}, t = .named n args → (body p fuel t).isPointer ∨ (body p fuel t).isInterface →
    declaredMethods p fuel n args = []
  distinct : ∀ {s}, body p fuel t = .interface s → (s.methods.map Method.id).Nodup
  named : ∀ {s}, body p fuel t = .interface s → ∀ m ∈ s.methods, m.id.name ≠ "_"

section
variable {p : Program} {fuel : Nat} {t : Ty} {id : MemberId} {k : Method}

/-- Nothing is asked of types that are neither pointers nor interfaces. -/
theorem ValidReceiver.of_concrete (hpointer : (body p fuel t).isPointer = false)
    (hinterface : (body p fuel t).isInterface = false) : ValidReceiver p fuel t where
  own _ h := by simp [hpointer, hinterface] at h
  distinct hs := by simp [hs, Body.isInterface] at hinterface
  named hs := by simp [hs, Body.isInterface] at hinterface

def TypeView.ownMethod? (v : TypeView) (id : MemberId) : Ty → Option Method
  | .named name args => (v.methods name args).find? fun m => m.id = id
  | _ => none

theorem TypeView.searchType_eq (v : TypeView) (id : MemberId) (c : Candidate)
    (found : Option (Member × Bool)) (next : List Candidate) (seen : List Ty) :
    v.searchType id c found next seen =
      match v.ownMethod? id c.type with
      | some m => .find c (.method m) found next seen
      | none => match v.body c.type with
        | .struct fields =>
          match fields.find? fun f => f.id = id with
          | some f => .find c (.field f) found next seen
          | none => .searched found (if found.isNone then next ++ embeddedCandidates c fields else next) seen
        | .interface set =>
          match set.methods.find? fun m => m.id = id with
          | some m => .find c (.method m) found next seen
          | none => .searched found next seen
        | .other _ => .searched found next seen := by
  rcases c with ⟨t, isIndirect, isMultiple⟩
  unfold searchType
  cases t <;> rfl

theorem ownMethod?_of_valid (h : ValidReceiver p fuel t)
    (hbody : (body p fuel t).isPointer ∨ (body p fuel t).isInterface) (id : MemberId) :
    (typeView p fuel).ownMethod? id t = none := by
  cases t with
  | named n args =>
    have hnone : (typeView p fuel).methods n args = [] := h.own rfl hbody
    simp only [TypeView.ownMethod?, hnone, List.find?_nil]
  | _ => rfl

/-- The methods of an interface are found in it, and nothing is found in a pointer type. -/
theorem searchType_of_valid (h : ValidReceiver p fuel t)
    (hbody : (body p fuel t).isPointer ∨ (body p fuel t).isInterface) (id : MemberId)
    (isIndirect : Bool) (seen : List Ty) :
    (typeView p fuel).searchType id ⟨t, isIndirect, false⟩ none [] seen =
      .searched (((body p fuel t).method? id).map fun m => (.method m, isIndirect)) [] seen := by
  have hown := ownMethod?_of_valid h hbody id
  have hview : (typeView p fuel).body t = body p fuel t := rfl
  rw [TypeView.searchType_eq, hown, hview]
  cases hcase : body p fuel t with
  | struct fields => simp [hcase, Body.isPointer, Body.isInterface] at hbody
  | other _ => rfl
  | interface set =>
    dsimp only [Body.method?]
    cases set.methods.find? fun m => m.id = id <;> rfl

theorem searchLevels_of_valid (h : ValidReceiver p fuel t)
    (hbody : (body p fuel t).isPointer ∨ (body p fuel t).isInterface) (id : MemberId)
    (depth : Nat) (isIndirect : Bool) :
    (typeView p fuel).searchLevels id (depth + 1) [⟨t, isIndirect, false⟩] [] =
      ((body p fuel t).method? id).map fun m => (.method m, isIndirect) := by
  have hlevel : (typeView p fuel).searchLevel id [⟨t, isIndirect, false⟩] none [] [] =
      .searched (((body p fuel t).method? id).map fun m => (.method m, isIndirect)) []
        (if TypeView.isNamed t then [t] else []) := by
    rw [TypeView.searchLevel_cons, searchType_of_valid h hbody]
    simp [TypeView.searchLevel]
  simp only [TypeView.searchLevels, hlevel]
  cases (body p fuel t).method? id with
  | none => cases depth <;> rfl
  | some _ => rfl

theorem lookup_interface (h : ValidReceiver p fuel t) {s : TypeSet} (hs : body p fuel t = .interface s)
    (hk : k ∈ s.methods) : lookup p fuel t true k.id = some (.method k) := by
  have hpointer : (body p fuel t).isPointer = false := by simp [hs, Body.isPointer]
  have hmethod : (body p fuel t).method? k.id = some k := by
    rw [hs, Body.method?, find?_key_of_nodup (h.distinct hs) hk]
  cases fuel with
  | zero => simp [body] at hs
  | succ depth =>
    have hsearch := searchLevels_of_valid h (.inr (by simp [hs, Body.isInterface])) k.id depth false
    rw [hmethod] at hsearch
    refine TypeView.lookup_eq_method_iff.mpr
      ⟨h.named hs k hk, declaredPointee?_of_not_pointer hpointer, ?_, false, ?_, by simp⟩
    · rw [deref_of_not_pointer hpointer, Bool.false_and]
    · rw [deref_of_not_pointer hpointer]
      exact hsearch

theorem lookup_pointer_to_pointer (h : ValidReceiver p fuel t) (ht : (body p fuel t).isPointer)
    (id : MemberId) (k : Method) : lookup p fuel (.pointer t) false id ≠ some (.method k) := by
  intro hlookup
  have hmethod : (body p fuel t).method? id = none := by
    cases hcase : body p fuel t with
    | interface set => simp [hcase, Body.isPointer] at ht
    | _ => rfl
  obtain ⟨-, -, -, isIndirect, hsearch, -⟩ := TypeView.lookup_eq_method_iff.mp hlookup
  cases fuel with
  | zero => cases hsearch
  | succ depth =>
    have hnone := searchLevels_of_valid h (.inl ht) id depth true
    rw [hmethod] at hnone
    cases hnone.symm.trans hsearch

end

theorem Program.fuel_pos (p : Program) : 0 < p.fuel := by
  have hle (files : List Source.File) (n : Nat) : n ≤ files.foldl (fun n f => n + f.size) n := by
    induction files generalizing n with
    | nil => exact Nat.le_refl n
    | cons f files ih => exact Nat.le_trans (Nat.le_add_right n f.size) (ih _)
  have := hle (p.packages.flatMap Package.files) 4
  unfold fuel
  omega

def Member.id : Member → MemberId
  | field f => f.id
  | method m => m.id

namespace Body

def isStruct : Body → Bool
  | .struct _ => true
  | _ => false

/-- The fields of a struct. -/
def fields : Body → List StructField
  | .struct fields => fields
  | _ => []

theorem eq_struct_of_isStruct {b : Body} (h : b.isStruct) : b = .struct b.fields := by
  cases b with
  | struct fields => rfl
  | interface set | other t => cases h

end Body

/-- The members that a declared type has by itself. -/
def ownMembers (p : Program) (fuel : Nat) (n : TypeName) : List Member :=
  (declaredMethods p fuel n []).map .method ++ (body p fuel (.named n [])).fields.map .field

theorem embeddedCandidates_of_flat (c : Candidate) {fields : List StructField}
    (h : ∀ f ∈ fields, f.isEmbedded = false) : embeddedCandidates c fields = [] := by
  rw [embeddedCandidates, List.filterMap_eq_nil_iff]
  intro f hf
  simp [h f hf]

section
variable {p : Program} {fuel : Nat} {n : TypeName} {fields : List StructField}

theorem find?_ownMembers (hbody : body p fuel (.named n []) = .struct fields) (id : MemberId) :
    ((ownMembers p fuel n).find? fun m => m.id = id) =
      (((declaredMethods p fuel n []).find? fun m => m.id = id).map .method).or
        ((fields.find? fun f => f.id = id).map .field) := by
  rw [ownMembers, hbody, List.find?_append, List.find?_map, List.find?_map]
  rfl

/-- Without embedded fields the search ends with the struct itself. -/
theorem searchLevels_of_flat (hbody : body p fuel (.named n []) = .struct fields)
    (hflat : ∀ f ∈ fields, f.isEmbedded = false) (id : MemberId) (depth : Nat) (isIndirect : Bool) :
    (typeView p fuel).searchLevels id (depth + 1) [⟨.named n [], isIndirect, false⟩] [] =
      ((ownMembers p fuel n).find? fun m => m.id = id).map fun m => (m, isIndirect) := by
  have hview : (typeView p fuel).body (.named n []) = .struct fields := hbody
  have hlevel : (typeView p fuel).searchLevel id [⟨.named n [], isIndirect, false⟩] none [] [] =
      .searched (((ownMembers p fuel n).find? fun m => m.id = id).map fun m => (m, isIndirect)) []
        [.named n []] := by
    have hmethods : (typeView p fuel).methods n [] = declaredMethods p fuel n [] := rfl
    rw [TypeView.searchLevel_cons, find?_ownMembers hbody]
    simp only [TypeView.searchType, hview, hmethods, embeddedCandidates_of_flat _ hflat]
    cases (declaredMethods p fuel n []).find? fun m => m.id = id with
    | some m => rfl
    | none => cases fields.find? fun f => f.id = id <;> rfl
  simp only [TypeView.searchLevels, hlevel]
  cases (ownMembers p fuel n).find? fun m => m.id = id with
  | none => cases depth <;> rfl
  | some _ => rfl

/-- A member that a struct has by itself ends the search, whatever the struct embeds. -/
theorem searchLevels_of_own (hbody : body p fuel (.named n []) = .struct fields) {id : MemberId} {m : Member}
    (hown : ((ownMembers p fuel n).find? fun k => k.id = id) = some m) (depth : Nat) (isIndirect : Bool) :
    (typeView p fuel).searchLevels id (depth + 1) [⟨.named n [], isIndirect, false⟩] [] = some (m, isIndirect) := by
  have hview : (typeView p fuel).body (.named n []) = .struct fields := hbody
  have hmethods : (typeView p fuel).methods n [] = declaredMethods p fuel n [] := rfl
  have hlevel : (typeView p fuel).searchLevel id [⟨.named n [], isIndirect, false⟩] none [] [] =
      .searched (some (m, isIndirect)) [] [.named n []] := by
    rw [find?_ownMembers hbody] at hown
    rw [TypeView.searchLevel_cons]
    simp only [TypeView.searchType, hview, hmethods]
    cases hmethod : (declaredMethods p fuel n []).find? fun k => k.id = id with
    | some k =>
      obtain rfl : .method k = m := by simpa [hmethod] using hown
      rfl
    | none =>
      obtain ⟨f, hfield, rfl⟩ : ∃ f, (fields.find? fun f => f.id = id) = some f ∧ .field f = m := by
        simpa [hmethod] using hown
      rw [hfield]
      rfl
  simp only [TypeView.searchLevels, hlevel]

/-- A member that a struct has by itself is what lookup finds of its name. -/
theorem lookup_of_own (hbody : body p fuel (.named n []) = .struct fields) {id : MemberId} (hid : id.name ≠ "_")
    {m : Member} (hown : ((ownMembers p fuel n).find? fun k => k.id = id) = some m) :
    lookup p fuel (.pointer (.named n [])) false id = some m := by
  cases fuel with
  | zero => simp [body] at hbody
  | succ depth =>
    have hview : (typeView p (depth + 1)).body (.named n []) = .struct fields := hbody
    have hsearch := searchLevels_of_own hbody hown depth true
    simp only [lookup, TypeView.lookup, if_neg hid, deref, hview, hsearch]
    cases m <;> simp

/-- The members of a pointer to a struct without embedded fields are those that the struct has by itself. -/
theorem lookup_of_flat (hbody : body p fuel (.named n []) = .struct fields)
    (hflat : ∀ f ∈ fields, f.isEmbedded = false) {id : MemberId} (hid : id.name ≠ "_") :
    lookup p fuel (.pointer (.named n [])) false id = (ownMembers p fuel n).find? fun m => m.id = id := by
  cases fuel with
  | zero => simp [body] at hbody
  | succ depth =>
    have hview : (typeView p (depth + 1)).body (.named n []) = .struct fields := hbody
    have hsearch := searchLevels_of_flat hbody hflat id depth true
    simp only [lookup, TypeView.lookup, if_neg hid, deref, hview, hsearch]
    cases (ownMembers p (depth + 1) n).find? fun m => m.id = id with
    | none => simp
    | some m => cases m <;> simp

end

end ServiceAnnotations.Types
