import ServiceAnnotations.Proofs.Types.Unification

/-! # Matching finds exactly the substitution

Types that mention parameters are matched against others, pair by pair. What a match says about bindings
is said once: which are kept, which are left alone, and what types for the parameters must then solve.
From this and from the completeness of matching it follows that all pairs match if and only if some types
for the parameters turn each left side into the right side, and that the bindings are then these types. -/
namespace ServiceAnnotations.Types

/-- Bindings that came of others by a match: parameters that were not met are left alone, and whatever
types the bindings stand for solve what was matched. -/
structure Bindings.Learned (met : Nat → Bool) (solves : List Ty → Prop) (b b' : Bindings) : Prop where
  length_eq : b'.length = b.length
  kept : ∀ {i : Nat} {a : Ty}, b[i]? = some (some a) → b'[i]? = some (some a)
  alone : ∀ {i : Nat}, met i = false → b'[i]? = b[i]?
  solves : ∀ {args : List Ty}, b'.Within args → solves args

namespace Bindings.Learned
variable {met met₁ met₂ : Nat → Bool} {P Q : List Ty → Prop} {b b₁ b₂ : Bindings}

theorem refl (hP : ∀ {args}, b.Within args → P args) : Learned met P b b where
  length_eq := rfl
  kept := id
  alone _ := rfl
  solves := hP

theorem within (h : Learned met P b b₁) {args : List Ty} (hargs : b₁.Within args) : b.Within args where
  length_eq := h.length_eq.symm.trans hargs.length_eq
  bound hb := hargs.bound (h.kept hb)

theorem trans (h₁ : Learned met₁ P b b₁) (h₂ : Learned met₂ Q b₁ b₂) :
    Learned (fun i => met₁ i || met₂ i) (fun args => P args ∧ Q args) b b₂ where
  length_eq := h₂.length_eq.trans h₁.length_eq
  kept hb := h₂.kept (h₁.kept hb)
  alone hi := by
    obtain ⟨hi₁, hi₂⟩ := Bool.or_eq_false_iff.mp hi
    exact (h₂.alone hi₂).trans (h₁.alone hi₁)
  solves hargs := ⟨h₁.solves (h₂.within hargs), h₂.solves hargs⟩

theorem imp (h : Learned met P b b₁) (hPQ : ∀ args, P args → Q args) : Learned met Q b b₁ where
  length_eq := h.length_eq
  kept := h.kept
  alone := h.alone
  solves hargs := hPQ _ (h.solves hargs)

/-- A parameter that was not bound is bound now. -/
theorem set {i : Nat} {y : Ty} (hfree : b[i]? = some none) :
    Learned (fun j => decide (i = j)) (fun args => args[i]? = some y) b (b.set i (some y)) where
  length_eq := List.length_set
  kept {j a} ha := by
    have hij : i ≠ j := by
      rintro rfl
      cases hfree.symm.trans ha
    rw [List.getElem?_set_ne hij, ha]
  alone hj := List.getElem?_set_ne (of_decide_eq_false hj)
  solves hargs := hargs.bound (List.getElem?_set_self (List.getElem?_eq_some_iff.mp hfree).1)

end Bindings.Learned

section
variable {owner : TypeName}

theorem Ty.subst_param_of_getElem? {i : Nat} {args : List Ty} {y : Ty} (h : args[i]? = some y) :
    (Ty.param owner i).subst owner (args.map some) = y := by
  simp [Ty.subst, h]

/-- What is matched by being equal binds nothing. -/
theorem learned_of_eq {x y : Ty} {b b' : Bindings} (hx : x.mentions (fun o _ => o = owner) = false)
    (h : (if x = y then some b else none) = some b') :
    Bindings.Learned (x.mentionsParam owner ·) (fun args => x.subst owner (args.map some) = y) b b' := by
  obtain ⟨rfl, rfl⟩ := by simpa using h
  exact .refl fun _ => Ty.subst_eq_self _ x hx

theorem learned_param (o : TypeName) (i : Nat) (y : Ty) {b b' : Bindings}
    (h : unify owner (.param o i) y b = some b') :
    Bindings.Learned ((Ty.param o i).mentionsParam owner ·)
      (fun args => (Ty.param o i).subst owner (args.map some) = y) b b' := by
  rw [unify] at h
  by_cases ho : o = owner
  · subst ho
    simp only [Ty.mentionsParam_param]
    rw [if_pos rfl] at h
    cases hget : b[i]? with
    | none =>
      -- a parameter with no binding at all stands for itself
      obtain ⟨rfl, rfl⟩ : Ty.param o i = y ∧ b = b' := by simpa [hget] using h
      refine .refl fun hargs => ?_
      have hlen := List.getElem?_eq_none_iff.mp hget
      have hnone : _ = none := List.getElem?_eq_none (hargs.length_eq ▸ hlen)
      simp [Ty.subst, hnone]
    | some bound =>
      cases bound with
      | none =>
        obtain rfl : b.set i (some y) = b' := by simpa [hget] using h
        exact (Bindings.Learned.set hget).imp fun _ => Ty.subst_param_of_getElem?
      | some bound =>
        obtain ⟨rfl, rfl⟩ : bound = y ∧ b = b' := by simpa [hget] using h
        exact .refl fun hargs => Ty.subst_param_of_getElem? (hargs.bound hget)
  · exact learned_of_eq (by simp [Ty.mentions, ho]) (by rwa [if_neg ho] at h)

mutual

/-- A match is sound: whatever types the bindings stand for turn the left side into the right side. -/
theorem unify_learned : ∀ (x y : Ty) {b b' : Bindings}, x.isMatchable owner = true →
    unify owner x y b = some b' →
    Bindings.Learned (x.mentionsParam owner ·) (fun args => x.subst owner (args.map some) = y) b b'
  | .basic _, y, _, _, _, h => learned_of_eq rfl (by simpa [unify] using h)
  | .param o i, y, _, _, _, h => learned_param o i y h
  | .named m xs, y, b, b', hx, h => by
    cases y with
    | named n ys =>
      obtain ⟨rfl, hparts⟩ := by simpa only [unify, Option.ite_none_right_eq_some] using h
      exact (unifyAll_learned xs ys hx hparts).imp fun _ hxs => congrArg _ hxs
    | _ => simp [unify] at h
  | .pointer x, y, b, b', hx, h => by
    cases y with
    | pointer y => exact (unify_learned x y hx h).imp fun _ hxy => congrArg _ hxy
    | _ => simp [unify] at h
  | .slice x, y, b, b', hx, h => by
    cases y with
    | slice y => exact (unify_learned x y hx h).imp fun _ hxy => congrArg _ hxy
    | _ => simp [unify] at h
  | .array m x, y, b, b', hx, h => by
    cases y with
    | array n y =>
      obtain ⟨rfl, hparts⟩ := by simpa only [unify, Option.ite_none_right_eq_some] using h
      exact (unify_learned x y hx hparts).imp fun _ hxy => congrArg _ hxy
    | _ => simp [unify] at h
  | .chan d x, y, b, b', hx, h => by
    cases y with
    | chan e y =>
      obtain ⟨rfl, hparts⟩ := by simpa only [unify, Option.ite_none_right_eq_some] using h
      exact (unify_learned x y hx hparts).imp fun _ hxy => congrArg _ hxy
    | _ => simp [unify] at h
  | .map k v, y, b, b', hx, h => by
    obtain ⟨hk, hv⟩ := Bool.and_eq_true_iff.mp hx
    cases y with
    | map l w =>
      obtain ⟨b₁, h₁, h₂⟩ := Option.bind_eq_some_iff.mp h
      exact ((unify_learned k l hk h₁).trans (unify_learned v w hv h₂)).imp
        fun _ hkv => by rw [Ty.subst, hkv.1, hkv.2]
    | _ => simp [unify] at h
  | .func ps rs v, y, b, b', hx, h => by
    obtain ⟨hps, hrs⟩ := Bool.and_eq_true_iff.mp hx
    cases y with
    | func qs ss w =>
      obtain ⟨rfl, hparts⟩ := by simpa only [unify, Option.ite_none_right_eq_some] using h
      obtain ⟨b₁, h₁, h₂⟩ := Option.bind_eq_some_iff.mp hparts
      exact ((unifyAll_learned ps qs hps h₁).trans (unifyAll_learned rs ss hrs h₂)).imp
        fun _ hpr => by rw [Ty.subst, hpr.1, hpr.2]
    | _ => simp [unify] at h
  | .struct _ _, y, b, b', hx, h | .interface _ _ _ _ _, y, b, b', hx, h =>
    learned_of_eq (Bool.not_eq_true' _ ▸ hx) (by simpa [unify] using h)

theorem unifyAll_learned : ∀ (xs ys : List Ty) {b b' : Bindings}, Ty.areMatchable owner xs = true →
    unifyAll owner xs ys b = some b' →
    Bindings.Learned (fun i => Ty.anyMentions (fun o j => o = owner && j = i) xs)
      (fun args => Ty.substAll owner (args.map some) xs = ys) b b'
  | [], [], _, _, _, h => by
    obtain rfl := Option.some.inj h
    exact .refl fun _ => rfl
  | x :: xs, y :: ys, b, b', hxs, h => by
    obtain ⟨hx, hxs⟩ := Bool.and_eq_true_iff.mp hxs
    obtain ⟨b₁, h₁, h₂⟩ := Option.bind_eq_some_iff.mp h
    exact ((unify_learned x y hx h₁).trans (unifyAll_learned xs ys hxs h₂)).imp
      fun _ hxy => by rw [Ty.substAll, hxy.1, hxy.2]
  | [], _ :: _, _, _, _, h | _ :: _, [], _, _, _, h => by simp [unifyAll] at h

end

variable (owner) in
/-- Matches types pair by pair, in order, with no parameter bound at first. -/
def unifyPairs (count : Nat) (pairs : List (Ty × Ty)) : Option Bindings :=
  pairs.foldlM (fun b p => unify owner p.1 p.2 b) (List.replicate count none)

variable (owner) in
/-- Types for the parameters turn each left side into the right side. -/
def Solves (args : List Ty) (pairs : List (Ty × Ty)) : Prop :=
  ∀ p ∈ pairs, p.1.subst owner (args.map some) = p.2

variable (owner) in
/-- The parameters that occur on a left side with their types, the others unbound. -/
def bindingsOf (args : List Ty) (pairs : List (Ty × Ty)) : Bindings :=
  (List.range args.length).map fun i =>
    if pairs.any (·.1.mentionsParam owner i) then args[i]? else none

theorem foldlM_unify (pairs : List (Ty × Ty)) (b : Bindings) :
    pairs.foldlM (fun b p => unify owner p.1 p.2 b) b =
      unifyAll owner (pairs.map Prod.fst) (pairs.map Prod.snd) b := by
  induction pairs generalizing b with
  | nil => rfl
  | cons p pairs ih =>
    rw [List.foldlM_cons, List.map_cons, List.map_cons, unifyAll]
    exact congrArg _ (funext ih)

theorem solves_iff {args : List Ty} {pairs : List (Ty × Ty)} :
    Solves owner args pairs ↔
      Ty.substAll owner (args.map some) (pairs.map Prod.fst) = pairs.map Prod.snd := by
  induction pairs with
  | nil => simp [Solves, Ty.substAll]
  | cons p pairs ih =>
    rw [Solves, List.forall_mem_cons, ← Solves, ih, List.map_cons, List.map_cons, Ty.substAll,
      List.cons_eq_cons]

theorem anyMentions_map_fst (isMeant : TypeName → Nat → Bool) (pairs : List (Ty × Ty)) :
    Ty.anyMentions isMeant (pairs.map Prod.fst) = pairs.any (·.1.mentions isMeant) := by
  induction pairs with
  | nil => rfl
  | cons p pairs ih => rw [List.map_cons, Ty.anyMentions, List.any_cons, ih]

theorem areMatchable_map_fst {pairs : List (Ty × Ty)} (h : ∀ p ∈ pairs, p.1.isMatchable owner = true) :
    Ty.areMatchable owner (pairs.map Prod.fst) = true := by
  induction pairs with
  | nil => rfl
  | cons p pairs ih =>
    obtain ⟨hp, hpairs⟩ := List.forall_mem_cons.mp h
    rw [List.map_cons, Ty.areMatchable, hp, ih hpairs, Bool.and_true]

theorem Solves.perm {args : List Ty} {pairs pairs' : List (Ty × Ty)} (h : Solves owner args pairs)
    (hperm : pairs'.Perm pairs) : Solves owner args pairs' :=
  fun p hp => h p (hperm.subset hp)

theorem bindingsOf_perm (args : List Ty) {pairs pairs' : List (Ty × Ty)} (hperm : pairs'.Perm pairs) :
    bindingsOf owner args pairs' = bindingsOf owner args pairs := by
  refine List.map_congr_left fun i _ => ?_
  rw [hperm.any_eq]

section
variable {pairs : List (Ty × Ty)} (hpairs : ∀ p ∈ pairs, p.1.isMatchable owner = true)
include hpairs

/-- Where a substitution solves all pairs, they match, and the bindings are the substitution. -/
theorem unifyPairs_of_solves {args : List Ty} (hsolves : Solves owner args pairs) :
    unifyPairs owner args.length pairs = some (bindingsOf owner args pairs) := by
  have hmatchable := areMatchable_map_fst hpairs
  obtain ⟨b, hunify, hmatched⟩ := unifyAll_subst _ hmatchable (Bindings.within_replicate args)
  rw [solves_iff.mp hsolves] at hunify
  have hlearned := unifyAll_learned _ _ hmatchable hunify
  rw [unifyPairs, foldlM_unify, hunify]
  refine congrArg some (List.ext_getElem? fun i => ?_)
  have hmet := anyMentions_map_fst (fun o j => decide (o = owner) && decide (j = i)) pairs
  by_cases hi : i < args.length
  · rw [bindingsOf, List.getElem?_map, List.getElem?_range hi, Option.map_some]
    by_cases hmentions : pairs.any (·.1.mentionsParam owner i) = true
    · obtain ⟨a, ha⟩ := hmatched.binds hi (hmet.trans hmentions)
      rw [if_pos hmentions, ha, hmatched.within.bound ha]
    · rw [if_neg hmentions, hlearned.alone (hmet.trans (Bool.eq_false_iff.mpr hmentions)),
        List.getElem?_replicate_of_lt hi]
  · have hlength := hmatched.within.length_eq
    rw [List.getElem?_eq_none (by omega), List.getElem?_eq_none (by simpa [bindingsOf] using hi)]

/-- Where all pairs match, some substitution solves them. -/
theorem exists_solves_of_unifyPairs {count : Nat} {b : Bindings}
    (h : unifyPairs owner count pairs = some b) :
    ∃ args, args.length = count ∧ Solves owner args pairs := by
  rw [unifyPairs, foldlM_unify] at h
  have hlearned := unifyAll_learned _ _ (areMatchable_map_fst hpairs) h
  -- any type will do for a parameter that is not bound
  refine ⟨b.map (·.getD default), by simpa using hlearned.length_eq, ?_⟩
  refine solves_iff.mpr (hlearned.solves ⟨by simp, fun ha => ?_⟩)
  rw [List.getElem?_map, ha, Option.map_some, Option.getD_some]

end

/-- Types that mention parameters only where matching looks for them are matched against others, pair by
pair; the others may be any types. All pairs match just when some types for the parameters turn each left
side into the right side. The bindings are then these types for the parameters that occur on a left side,
and no others. The order of the pairs does not matter. -/
theorem unifyPairs_finds_substitution (owner : TypeName) (count : Nat) {pairs : List (Ty × Ty)}
    (hpairs : ∀ p ∈ pairs, p.1.isMatchable owner = true) :
    ((unifyPairs owner count pairs).isSome = true ↔
      ∃ args, args.length = count ∧ Solves owner args pairs) ∧
    (∀ args, args.length = count → Solves owner args pairs →
      unifyPairs owner count pairs = some (bindingsOf owner args pairs)) ∧
    ∀ pairs', pairs'.Perm pairs → unifyPairs owner count pairs' = unifyPairs owner count pairs := by
  have hfound : ∀ args, args.length = count → Solves owner args pairs →
      unifyPairs owner count pairs = some (bindingsOf owner args pairs) := by
    rintro args rfl hsolves
    exact unifyPairs_of_solves hpairs hsolves
  refine ⟨⟨fun h => ?_, ?_⟩, hfound, fun pairs' hperm => ?_⟩
  · obtain ⟨b, hb⟩ := Option.isSome_iff_exists.mp h
    exact exists_solves_of_unifyPairs hpairs hb
  · rintro ⟨args, hlength, hsolves⟩
    rw [hfound args hlength hsolves, Option.isSome_some]
  · have hpairs' : ∀ p ∈ pairs', p.1.isMatchable owner = true := fun p hp => hpairs p (hperm.subset hp)
    by_cases hsolvable : ∃ args, args.length = count ∧ Solves owner args pairs
    · obtain ⟨args, rfl, hsolves⟩ := hsolvable
      rw [unifyPairs_of_solves hpairs hsolves, unifyPairs_of_solves hpairs' (hsolves.perm hperm),
        bindingsOf_perm args hperm]
    · -- neither order has a solution, so neither matches
      have hnone : ∀ qs : List (Ty × Ty), (∀ p ∈ qs, p.1.isMatchable owner = true) → pairs.Perm qs →
          unifyPairs owner count qs = none := by
        intro qs hqs hperm
        refine Option.eq_none_iff_forall_not_mem.mpr fun b hb => hsolvable ?_
        obtain ⟨args, hlength, hsolves⟩ := exists_solves_of_unifyPairs hqs hb
        exact ⟨args, hlength, hsolves.perm hperm⟩
      rw [hnone pairs' hpairs' hperm.symm, hnone pairs hpairs (.refl _)]

end

namespace Tables

def table : TypeName := .member "p" "Table"

/-- The signatures of two methods, with the first two of three parameters. -/
def pairs : List (Ty × Ty) :=
  [(.map (.param table 0) (.slice (.param table 1)), .map (.basic .string) (.slice (.basic .int))),
    (.func [.pointer (.param table 1), .named table [.param table 0]] [.chan .send (.param table 0)] true,
      .func [.pointer (.basic .int), .named table [.basic .string]] [.chan .send (.basic .string)] true)]

end Tables

open Tables in
theorem unifyPairs_finds_substitution_table :
    (∀ p ∈ pairs, p.1.isMatchable table = true) ∧
    unifyPairs table 3 pairs = some [some (.basic .string), some (.basic .int), none] ∧
    unifyPairs table 3 pairs.reverse = some [some (.basic .string), some (.basic .int), none] := by
  have hpairs : ∀ p ∈ pairs, p.1.isMatchable table = true := by decide
  obtain ⟨-, hfound, horder⟩ := unifyPairs_finds_substitution table 3 hpairs
  have hsolves : Solves table [.basic .string, .basic .int, .basic .bool] pairs := by
    unfold Solves
    decide
  have hbindings : unifyPairs table 3 pairs = some [some (.basic .string), some (.basic .int), none] :=
    hfound _ rfl hsolves
  exact ⟨hpairs, hbindings, (horder _ (List.reverse_perm _)).trans hbindings⟩

end ServiceAnnotations.Types
