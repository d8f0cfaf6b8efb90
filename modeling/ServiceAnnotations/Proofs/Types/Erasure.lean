import ServiceAnnotations.Source.Parser
import ServiceAnnotations.Types.Settle
import ServiceAnnotations.Types.Subtype
import ServiceAnnotations.Proofs.Types.Lookup
import ServiceAnnotations.Proofs.Types.Unification

/-! # Subtypes of generic interfaces

The arguments at which a type satisfies a generic interface are read off its methods. Unless parameters of
the interface stand inside the literals of structs or interfaces, they are found whenever there are
any. -/
namespace ServiceAnnotations.Types

section
variable {p : Program} {fuel : Nat} {t : Ty} {set : TypeSet} {m : Method}

/-- A type that satisfies an interface has its methods, unless it is an interface that no type
satisfies. -/
theorem hasMethod_of_satisfies {asConstraint : Bool} (h : satisfies p fuel t set asConstraint = true)
    (hsome : ∀ s, body p fuel t = .interface s → s.isEmpty = false) (hm : m ∈ set.methods) :
    hasMethod p fuel t m = true := by
  cases hhas : hasMethod p fuel t m with
  | true => rfl
  | false =>
    have hall : set.methods.all (hasMethod p fuel t) = false := List.all_eq_false.mpr ⟨m, hm, by simp [hhas]⟩
    have hsetAll : set.isAll = false := by
      cases hmethods : set.methods with
      | nil => simp [hmethods] at hm
      | cons _ _ => simp [TypeSet.isAll, hmethods]
    simp only [satisfies, hall, hsetAll] at h
    cases hbody : body p fuel t with
    | interface s => simp [hbody, hsome s hbody] at h
    | _ => simp [hbody] at h

theorem lookup_of_hasMethod (hvalid : ValidReceiver p fuel t) (h : hasMethod p fuel t m = true) :
    ∃ k, lookup p fuel t true m.id = some (.method k) ∧ k.sig = m.sig := by
  unfold hasMethod at h
  split at h
  · rename_i s hs
    obtain ⟨k, hk, hid, hsig⟩ : ∃ k ∈ s.methods, k.id = m.id ∧ k.sig = m.sig := by simpa using h
    exact ⟨k, hid ▸ lookup_interface hvalid hs hk, hsig⟩
  · split at h
    · rename_i k hk
      exact ⟨k, lookup_addressed hk, of_decide_eq_true h⟩
    · cases h

theorem lookup_of_hasMethod_pointer (hvalid : ValidReceiver p fuel t)
    (h : hasMethod p fuel (.pointer t) m = true) :
    (body p fuel t).isPointer = false ∧ ∃ k, lookup p fuel t true m.id = some (.method k) ∧ k.sig = m.sig := by
  unfold hasMethod at h
  rw [body_pointer] at h
  dsimp only at h
  split at h
  · rename_i k hk
    have ht : (body p fuel t).isPointer = false := by
      cases ht : (body p fuel t).isPointer with
      | false => rfl
      | true => exact (lookup_pointer_to_pointer hvalid ht _ _ hk).elim
    exact ⟨ht, k, lookup_of_lookup_pointer ht hk, of_decide_eq_true h⟩
  · cases h

end

/-- The type set of an interface at type arguments, where it is taken from the one at the interface's own
parameters. -/
def Instantiates (p : Program) (interface : TypeName) (set : TypeSet) : Prop :=
  ∀ args set', body p p.fuel (.named interface args) = .interface set' → args ≠ [] →
    ∀ m ∈ set.methods, ∃ m' ∈ set'.methods, m'.id = m.id ∧ m'.sig = m.sig.subst interface (args.map some)

/-- An interface that was found out is taken at arguments by putting them in place of its parameters. -/
theorem instantiates_of_known {p : Program} {interface : TypeName} {package : String} {set : TypeSet}
    (hpackage : interface.package = some package)
    (hknown : p.findings.body? interface = some (.interface set)) :
    body p p.fuel (.named interface []) = .interface set ∧ Instantiates p interface set := by
  obtain ⟨fuel, hfuel⟩ := Nat.exists_eq_add_one.mpr p.fuel_pos
  constructor
  · rw [hfuel, body]
    simp [hpackage, hknown]
  · intro args set' hbody hargs m hm
    rw [hfuel, body] at hbody
    obtain rfl : _ = set' := by simpa [hpackage, hknown, hargs, Body.subst] using hbody
    exact ⟨_, List.mem_map_of_mem hm, rfl, rfl⟩

section
variable {p : Program} {t interface : TypeName} {args : List Ty}

theorem unifyMethods_subst {fuel : Nat} {t : Ty} {methods : List Method}
    (hmatchable : ∀ m ∈ methods, m.sig.isMatchable interface = true)
    (hlookup : ∀ m ∈ methods, ∃ k, lookup p fuel t true m.id = some (.method k) ∧
      k.sig = m.sig.subst interface (args.map some)) {b : Bindings} (hb : b.Within args) :
    ∃ b', unifyMethods p fuel interface t methods b = some b' ∧
      Bindings.Matched args (fun i => methods.any (·.sig.mentionsParam interface i)) b b' := by
  induction methods generalizing b with
  | nil => exact ⟨b, rfl, .refl hb fun _ _ => rfl⟩
  | cons m methods ih =>
    obtain ⟨hm, hmatchable⟩ := List.forall_mem_cons.mp hmatchable
    obtain ⟨⟨k, hk, hsig⟩, hlookup⟩ := List.forall_mem_cons.mp hlookup
    obtain ⟨b₁, hunify₁, hmatched₁⟩ := unify_subst m.sig hm hb
    obtain ⟨b₂, hunify₂, hmatched₂⟩ := ih hmatchable hlookup hmatched₁.within
    refine ⟨b₂, ?_, hmatched₁.trans hmatched₂⟩
    rw [unifyMethods, hk]
    dsimp only
    rw [hsig, hunify₁]
    exact hunify₂

theorem length_unifyMethods {fuel : Nat} {t : Ty} {methods : List Method} {b b' : Bindings}
    (h : unifyMethods p fuel interface t methods b = some b') : b'.length = b.length := by
  induction methods generalizing b with
  | nil => exact congrArg List.length (Option.some.inj h).symm
  | cons m methods ih =>
    rw [unifyMethods] at h
    split at h
    · obtain ⟨b₁, h₁, h₂⟩ := Option.bind_eq_some_iff.mp h
      exact (ih h₂).trans (length_unify _ _ h₁)
    · cases h

theorem mapM_id_map_some (args : List Ty) : (args.map some).mapM id = some args := by
  induction args with
  | nil => rfl
  | cons a args ih => simp [ih]

theorem length_of_mapM_id {b : Bindings} {args : List Ty} (h : b.mapM id = some args) :
    args.length = b.length := by
  induction b generalizing args with
  | nil => simp_all
  | cons o b ih =>
    rw [List.mapM_cons] at h
    obtain ⟨a, -, h⟩ := Option.bind_eq_some_iff.mp h
    obtain ⟨rest, hrest, h⟩ := Option.bind_eq_some_iff.mp h
    rw [← Option.some.inj h, List.length_cons, List.length_cons, ih hrest]

/-- The arguments at which a type has the methods of an interface are inferred. -/
theorem inferArgs?_eq_some {fuel : Nat} {t : Ty} {set : TypeSet}
    (hbody : body p fuel (.named interface []) = .interface set)
    (hmentioned : ∀ i < args.length, ∃ m ∈ set.methods, m.sig.mentionsParam interface i = true)
    (hmatchable : ∀ m ∈ set.methods, m.sig.isMatchable interface = true)
    (hlookup : ∀ m ∈ set.methods, ∃ k, lookup p fuel t true m.id = some (.method k) ∧
      k.sig = m.sig.subst interface (args.map some)) :
    inferArgs? p fuel t interface args.length = some args := by
  let sorted := set.methods.mergeSort fun a b => a.id.le b.id
  have hsorted : ∀ m, m ∈ sorted ↔ m ∈ set.methods := fun m => List.mem_mergeSort
  obtain ⟨b, hunify, hmatched⟩ := unifyMethods_subst (fun m hm => hmatchable m ((hsorted m).mp hm))
    (fun m hm => hlookup m ((hsorted m).mp hm)) (Bindings.within_replicate args)
  have hmet : ∀ i < args.length, sorted.any (·.sig.mentionsParam interface i) = true := by
    intro i hi
    obtain ⟨m, hm, hmentions⟩ := hmentioned i hi
    exact List.any_eq_true.mpr ⟨m, (hsorted m).mpr hm, hmentions⟩
  simp only [inferArgs?, hbody]
  change (unifyMethods p fuel interface t sorted (List.replicate args.length none)).bind (·.mapM id) =
    some args
  rw [hunify, Option.bind_some, hmatched.eq_map_some hmet, mapM_id_map_some]

theorem length_inferArgs? {fuel count : Nat} {t : Ty} (h : inferArgs? p fuel t interface count = some args) :
    args.length = count := by
  unfold inferArgs? at h
  split at h
  · obtain ⟨b, hunify, hb⟩ := Option.bind_eq_some_iff.mp h
    rw [length_of_mapM_id hb, length_unifyMethods hunify, List.length_replicate]
  · cases h

end

/-- A type, or a pointer to it, satisfies a generic interface at arguments that meet the constraints of
the interface's parameters. -/
def SatisfiesInstance (p : Program) (t : Ty) (d : DeclaredType) (interface : TypeName) (args : List Ty) :
    Prop :=
  args.length = d.spec.params.length ∧ p.argsSatisfy d args = true ∧
    ∃ set, body p p.fuel (.named interface args) = .interface set ∧
      (satisfies p p.fuel t set false = true ∨ satisfies p p.fuel (.pointer t) set false = true)

section
variable {p : Program} {t interface : TypeName} {d : DeclaredType}

theorem isErasedSubtype_eq (hd : p.declared? interface = some d) (hgeneric : p.isGeneric interface = true)
    (ht : p.isGeneric t = false) :
    p.isErasedSubtype t interface =
      match inferArgs? p p.fuel (p.typeOf t) interface d.spec.params.length with
      | some args =>
        p.argsSatisfy d args && match body p p.fuel (.named interface args) with
          | .interface set => implements p p.fuel (p.typeOf t) set
          | _ => false
      | none => false := by
  simp only [Program.isErasedSubtype, hd, hgeneric, ht]
  rfl

theorem params_pos (hd : p.declared? interface = some d) (hgeneric : p.isGeneric interface = true) :
    0 < d.spec.params.length := by
  simp only [Program.isGeneric, hd, Option.any_some, Bool.and_eq_true, Bool.not_eq_true',
    List.isEmpty_eq_false_iff] at hgeneric
  exact List.length_pos_iff.mpr hgeneric.2

end

section
variable {p : Program} {fuel : Nat} {t : Ty} {set : TypeSet}

theorem implements_eq (p : Program) (fuel : Nat) (t : Ty) (set : TypeSet) :
    implements p fuel t set =
      (satisfies p fuel t set false ||
        (!(body p fuel t).isPointer && satisfies p fuel (.pointer t) set false)) := by
  unfold implements
  cases body p fuel t with
  | other u => cases u <;> rfl
  | _ => rfl

/-- A type that satisfies an interface, itself or by way of a pointer, has the methods of the interface. -/
theorem lookup_of_satisfies (hvalid : ValidReceiver p fuel t)
    (hsome : ∀ s, body p fuel t = .interface s → s.isEmpty = false)
    (h : satisfies p fuel t set false = true ∨ satisfies p fuel (.pointer t) set false = true)
    {m : Method} (hm : m ∈ set.methods) :
    ∃ k, lookup p fuel t true m.id = some (.method k) ∧ k.sig = m.sig := by
  rcases h with h | h
  · exact lookup_of_hasMethod hvalid (hasMethod_of_satisfies h hsome hm)
  · refine (lookup_of_hasMethod_pointer hvalid (hasMethod_of_satisfies h ?_ hm)).2
    intro s hs
    rw [body_pointer] at hs
    cases hs

theorem implements_of_satisfies (hvalid : ValidReceiver p fuel t)
    (h : satisfies p fuel t set false = true ∨ satisfies p fuel (.pointer t) set false = true)
    {m : Method} (hm : m ∈ set.methods) : implements p fuel t set = true := by
  rw [implements_eq]
  rcases h with h | h
  · rw [h, Bool.true_or]
  · have hhas := hasMethod_of_satisfies h (by simp [body_pointer]) hm
    have hpointer := (lookup_of_hasMethod_pointer hvalid hhas).1
    rw [hpointer, h, Bool.not_false, Bool.and_self, Bool.or_true]

end

/-- A type is a subtype of a generic interface for some choice of the interface's parameters exactly if
there are arguments for them at which it, or a pointer to it, satisfies the interface. -/
theorem isErasedSubtype_iff {p : Program} {t interface : TypeName} {d : DeclaredType} {set : TypeSet}
    (hd : p.declared? interface = some d) (hgeneric : p.isGeneric interface = true)
    (ht : p.isGeneric t = false) (hbody : body p p.fuel (.named interface []) = .interface set)
    (hinst : Instantiates p interface set)
    (hmentioned : ∀ i < d.spec.params.length, ∃ m ∈ set.methods, m.sig.mentionsParam interface i = true)
    (hmatchable : ∀ m ∈ set.methods, m.sig.isMatchable interface = true)
    (hvalid : ValidReceiver p p.fuel (p.typeOf t))
    (hsome : ∀ s, body p p.fuel (p.typeOf t) = .interface s → s.isEmpty = false) :
    p.isErasedSubtype t interface = true ↔
      ∃ args, SatisfiesInstance p (p.typeOf t) d interface args := by
  rw [isErasedSubtype_eq hd hgeneric ht]
  constructor
  · intro h
    cases hinfer : inferArgs? p p.fuel (p.typeOf t) interface d.spec.params.length with
    | none => simp [hinfer] at h
    | some args =>
      simp only [hinfer, Bool.and_eq_true] at h
      obtain ⟨hargs, himplements⟩ := h
      split at himplements
      · rename_i set' hset'
        rw [implements_eq, Bool.or_eq_true, Bool.and_eq_true] at himplements
        exact ⟨args, length_inferArgs? hinfer, hargs, set', hset', himplements.imp_right And.right⟩
      · cases himplements
  · rintro ⟨args, hlength, hargs, set', hset', hsatisfies⟩
    have hpos := params_pos hd hgeneric
    have hne : args ≠ [] := by
      rintro rfl
      simp at hlength
      omega
    have hinstance := hinst args set' hset' hne
    have hinfer : inferArgs? p p.fuel (p.typeOf t) interface d.spec.params.length = some args := by
      rw [← hlength]
      refine inferArgs?_eq_some hbody (hlength ▸ hmentioned) hmatchable fun m hm => ?_
      obtain ⟨m', hm', hid, hsig⟩ := hinstance m hm
      obtain ⟨k, hk, hksig⟩ := lookup_of_satisfies hvalid hsome hsatisfies hm'
      exact ⟨k, hid ▸ hk, hksig.trans hsig⟩
    obtain ⟨m, hm, -⟩ := hmentioned 0 hpos
    obtain ⟨m', hm', -⟩ := hinstance m hm
    simp only [hinfer, hset', hargs, implements_of_satisfies hvalid hsatisfies hm', Bool.and_self]

namespace Boxes

/-- A generic interface, and a type that has its method by way of pointers. -/
def file : Source.File :=
  (Source.File.read? (Bytes.ofString "p/box.go") (Bytes.ofString
    ("package p\n\ntype Box[T any] interface\x7b Swap(T) []T \x7d\n\ntype Ints []int\n\n" ++
      "func (*Ints) Swap(int) []int \x7b\x7d\n"))).get
    (by decide +kernel)

def program : Program :=
  .settle { packages := [{ id := "p", path := "p", name := "p", dir := Bytes.ofString "p", files := [file] }] }

def box : TypeName := .member "p" "Box"
def ints : TypeName := .member "p" "Ints"

/-- Whether the parameter of `Box` is found out by way of its method, and `Ints` is such a box. -/
def hasBox : Bool :=
  match program.declared? box, program.findings.body? box with
  | some d, some (.interface set) =>
    d.spec.params.length == 1 && program.isGeneric box && !program.isGeneric ints &&
      set.methods.all (·.sig.isMatchable box) && set.methods.any (·.sig.mentionsParam box 0) &&
      !(body program program.fuel (program.typeOf ints)).isPointer &&
      !(body program program.fuel (program.typeOf ints)).isInterface && program.isErasedSubtype ints box
  | _, _ => false

end Boxes

open Boxes in
theorem isErasedSubtype_iff_boxes :
    program.isErasedSubtype ints box = true ∧
      ∃ d args, program.declared? box = some d ∧ SatisfiesInstance program (program.typeOf ints) d box args := by
  have hcheck : hasBox = true := by decide +kernel
  unfold hasBox at hcheck
  split at hcheck
  · rename_i d set hd hknown
    simp only [Bool.and_eq_true, beq_iff_eq, Bool.not_eq_true', List.all_eq_true, List.any_eq_true] at hcheck
    obtain ⟨⟨⟨⟨⟨⟨⟨hcount, hgeneric⟩, ht⟩, hmatchable⟩, hmentioned⟩, hpointer⟩, hinterface⟩, herased⟩ := hcheck
    obtain ⟨hbody, hinst⟩ := instantiates_of_known rfl hknown
    have hnone : ∀ s, body program program.fuel (program.typeOf ints) ≠ .interface s := by
      intro s hs
      simp [hs, Body.isInterface] at hinterface
    have hvalid := ValidReceiver.of_concrete hpointer hinterface
    have hall : ∀ i < d.spec.params.length, ∃ m ∈ set.methods, m.sig.mentionsParam box i = true := by
      intro i hi
      obtain rfl : i = 0 := by omega
      exact hmentioned
    obtain ⟨args, hargs⟩ := (isErasedSubtype_iff hd hgeneric ht hbody hinst hall hmatchable hvalid
      fun s hs => (hnone s hs).elim).mp herased
    exact ⟨herased, d, args, hd, hargs⟩
  · cases hcheck

namespace Cells

/-- A generic interface with a parameter inside the literal of a struct, and a type that has its method. -/
def file : Source.File :=
  (Source.File.read? (Bytes.ofString "p/cell.go") (Bytes.ofString
    ("package p\n\ntype Cell[T any] interface\x7b M(struct\x7b X T \x7d) \x7d\n\ntype A int\n\n" ++
      "func (A) M(struct\x7b X int \x7d) \x7b\x7d\n"))).get
    (by decide +kernel)

def program : Program :=
  .settle { packages := [{ id := "p", path := "p", name := "p", dir := Bytes.ofString "p", files := [file] }] }

def cell : TypeName := .member "p" "Cell"
def a : TypeName := .member "p" "A"

/-- Whether `A` implements `Cell[int]` although it is not found to be a subtype of `Cell`. -/
def hasCell : Bool :=
  match program.declared? cell, body program program.fuel (.named cell [.basic .int]) with
  | some d, .interface set =>
    !program.isErasedSubtype a cell && d.spec.params.length == 1 && program.argsSatisfy d [.basic .int] &&
      satisfies program program.fuel (program.typeOf a) set false
  | _, _ => false

end Cells

open Cells in
/-- The argument of a parameter inside the literal of a struct is not found. -/
theorem isErasedSubtype_misses_literal :
    program.isErasedSubtype a cell = false ∧
      ∃ d, program.declared? cell = some d ∧
        SatisfiesInstance program (program.typeOf a) d cell [.basic .int] := by
  have hcheck : hasCell = true := by decide +kernel
  unfold hasCell at hcheck
  split at hcheck
  · rename_i d set hd hbody
    simp only [Bool.and_eq_true, beq_iff_eq, Bool.not_eq_true'] at hcheck
    obtain ⟨⟨⟨herased, hcount⟩, hargs⟩, hsatisfies⟩ := hcheck
    exact ⟨herased, d, hd, hcount.symm, hargs, set, hbody, .inl hsatisfies⟩
  · cases hcheck

end ServiceAnnotations.Types
