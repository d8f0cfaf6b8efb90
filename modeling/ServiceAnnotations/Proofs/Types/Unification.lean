import ServiceAnnotations.Types.Unify

/-! # Matching finds the arguments of an instance

A type that mentions parameters is matched against the same type with arguments in their place. Unless
parameters stand inside the literal of a struct or an interface, matching succeeds, and it finds the
argument of each parameter that is mentioned. -/
namespace ServiceAnnotations.Types

namespace Ty

mutual

def mentions (isMeant : TypeName → Nat → Bool) : Ty → Bool
  | basic _ => false
  | param o i => isMeant o i
  | named _ args => anyMentions isMeant args
  | pointer x | slice x | array _ x | chan _ x => mentions isMeant x
  | map k v => mentions isMeant k || mentions isMeant v
  | func ps rs _ => anyMentions isMeant ps || anyMentions isMeant rs
  | struct _ ts => anyMentions isMeant ts
  | interface _ ss _ ts _ => anyMentions isMeant ss || anyMentions isMeant ts

def anyMentions (isMeant : TypeName → Nat → Bool) : List Ty → Bool
  | [] => false
  | t :: ts => mentions isMeant t || anyMentions isMeant ts

end

/-- Whether a type mentions the parameter of `owner` with a number. -/
def mentionsParam (owner : TypeName) (i : Nat) : Ty → Bool := mentions fun o j => o = owner && j = i

mutual

/-- Whether no parameter of `owner` stands inside the literal of a struct or an interface. -/
def isMatchable (owner : TypeName) : Ty → Bool
  | basic _ | param _ _ => true
  | named _ args => areMatchable owner args
  | pointer x | slice x | array _ x | chan _ x => isMatchable owner x
  | map k v => isMatchable owner k && isMatchable owner v
  | func ps rs _ => areMatchable owner ps && areMatchable owner rs
  | struct fs ts => !mentions (fun o _ => o = owner) (struct fs ts)
  | interface ms ss ti ts c => !mentions (fun o _ => o = owner) (interface ms ss ti ts c)

def areMatchable (owner : TypeName) : List Ty → Bool
  | [] => true
  | t :: ts => isMatchable owner t && areMatchable owner ts

end

mutual

theorem subst_eq_self {owner : TypeName} (b : Bindings) :
    ∀ x : Ty, x.mentions (fun o _ => o = owner) = false → x.subst owner b = x
  | basic _, _ => rfl
  | param o i, h => by simp_all [mentions, subst]
  | named _ xs, h => by rw [subst, substAll_eq_self b xs h]
  | pointer x, h | slice x, h | array _ x, h | chan _ x, h => by rw [subst, subst_eq_self b x h]
  | map k v, h => by
    obtain ⟨hk, hv⟩ := Bool.or_eq_false_iff.mp h
    rw [subst, subst_eq_self b k hk, subst_eq_self b v hv]
  | func ps rs _, h => by
    obtain ⟨hps, hrs⟩ := Bool.or_eq_false_iff.mp h
    rw [subst, substAll_eq_self b ps hps, substAll_eq_self b rs hrs]
  | struct _ ts, h => by rw [subst, substAll_eq_self b ts h]
  | interface _ ss _ ts _, h => by
    obtain ⟨hss, hts⟩ := Bool.or_eq_false_iff.mp h
    rw [subst, substAll_eq_self b ss hss, substAll_eq_self b ts hts]

theorem substAll_eq_self {owner : TypeName} (b : Bindings) :
    ∀ xs : List Ty, anyMentions (fun o _ => o = owner) xs = false → substAll owner b xs = xs
  | [], _ => rfl
  | x :: xs, h => by
    obtain ⟨hx, hxs⟩ := Bool.or_eq_false_iff.mp h
    rw [substAll, subst_eq_self b x hx, substAll_eq_self b xs hxs]

end

mutual

theorem mentions_mono {P Q : TypeName → Nat → Bool} (hPQ : ∀ o i, P o i = true → Q o i = true) :
    ∀ x : Ty, x.mentions P = true → x.mentions Q = true
  | basic _, h => h
  | param o i, h => hPQ o i h
  | named _ xs, h => anyMentions_mono hPQ xs h
  | pointer x, h | slice x, h | array _ x, h | chan _ x, h => mentions_mono hPQ x h
  | map k v, h =>
    Bool.or_eq_true_iff.mpr ((Bool.or_eq_true_iff.mp h).imp (mentions_mono hPQ k) (mentions_mono hPQ v))
  | func ps rs _, h =>
    Bool.or_eq_true_iff.mpr
      ((Bool.or_eq_true_iff.mp h).imp (anyMentions_mono hPQ ps) (anyMentions_mono hPQ rs))
  | struct _ ts, h => anyMentions_mono hPQ ts h
  | interface _ ss _ ts _, h =>
    Bool.or_eq_true_iff.mpr
      ((Bool.or_eq_true_iff.mp h).imp (anyMentions_mono hPQ ss) (anyMentions_mono hPQ ts))

theorem anyMentions_mono {P Q : TypeName → Nat → Bool} (hPQ : ∀ o i, P o i = true → Q o i = true) :
    ∀ xs : List Ty, anyMentions P xs = true → anyMentions Q xs = true
  | [], h => h
  | x :: xs, h =>
    Bool.or_eq_true_iff.mpr
      ((Bool.or_eq_true_iff.mp h).imp (mentions_mono hPQ x) (anyMentions_mono hPQ xs))

end

theorem mentionsParam_eq_false {owner : TypeName} {x : Ty}
    (h : x.mentions (fun o _ => o = owner) = false) (i : Nat) : x.mentionsParam owner i = false := by
  cases hparam : x.mentionsParam owner i with
  | false => rfl
  | true =>
    have hany := mentions_mono (fun o _ hmeant => (Bool.and_eq_true_iff.mp hmeant).1) x hparam
    exact (Bool.false_ne_true (h.symm.trans hany)).elim

theorem mentionsParam_param (owner : TypeName) (i j : Nat) :
    (param owner i).mentionsParam owner j = decide (i = j) := by
  simp [mentionsParam, mentions]

end Ty

structure Bindings.Within (b : Bindings) (args : List Ty) : Prop where
  length_eq : b.length = args.length
  bound : ∀ {i : Nat} {a : Ty}, b[i]? = some (some a) → args[i]? = some a

theorem Bindings.within_replicate (args : List Ty) :
    Bindings.Within (List.replicate args.length none) args where
  length_eq := List.length_replicate
  bound h := by
    have hmem := List.mem_of_getElem? h
    simp at hmem

/-- Bindings that came of others by a match: they keep what was bound, and bind in addition the parameters
that were met. -/
structure Bindings.Matched (args : List Ty) (met : Nat → Bool) (b b' : Bindings) : Prop where
  within : b'.Within args
  kept : ∀ {i : Nat} {a : Ty}, b[i]? = some (some a) → b'[i]? = some (some a)
  binds : ∀ {i : Nat}, i < args.length → met i = true → ∃ a, b'[i]? = some (some a)

namespace Bindings.Matched
variable {args : List Ty} {met met₁ met₂ : Nat → Bool} {b b₁ b₂ : Bindings}

theorem refl (h : b.Within args) (hmet : ∀ i < args.length, met i = false) : Matched args met b b where
  within := h
  kept hb := hb
  binds hi hmeti := by simp [hmet _ hi] at hmeti

theorem trans (h₁ : Matched args met₁ b b₁) (h₂ : Matched args met₂ b₁ b₂) :
    Matched args (fun i => met₁ i || met₂ i) b b₂ where
  within := h₂.within
  kept hb := h₂.kept (h₁.kept hb)
  binds hi hmet := by
    rcases Bool.or_eq_true_iff.mp hmet with hmet | hmet
    · obtain ⟨a, ha⟩ := h₁.binds hi hmet
      exact ⟨a, h₂.kept ha⟩
    · exact h₂.binds hi hmet

/-- A parameter that was not bound is bound to its argument. -/
theorem set (hb : b.Within args) {i : Nat} (hi : i < args.length) (hfree : b[i]? = some none) :
    Matched args (fun j => decide (i = j)) b (b.set i (some args[i])) where
  within := by
    refine ⟨by rw [List.length_set, hb.length_eq], fun {j a} ha => ?_⟩
    by_cases hij : i = j
    · subst hij
      rw [List.getElem?_set_self (hb.length_eq ▸ hi)] at ha
      rw [List.getElem?_eq_getElem hi, Option.some.inj ha]
    · rw [List.getElem?_set_ne hij] at ha
      exact hb.bound ha
  kept {j a} ha := by
    have hij : i ≠ j := by
      rintro rfl
      cases hfree.symm.trans ha
    rw [List.getElem?_set_ne hij, ha]
  binds _ hj := by
    rw [← of_decide_eq_true hj, List.getElem?_set_self (hb.length_eq ▸ hi)]
    exact ⟨args[i], rfl⟩

/-- Once all parameters are met, the bindings are the arguments. -/
theorem eq_map_some (h : Matched args met b b') (hmet : ∀ i < args.length, met i = true) :
    b' = args.map some := by
  refine List.ext_getElem? fun i => ?_
  rw [List.getElem?_map]
  by_cases hi : i < args.length
  · obtain ⟨a, ha⟩ := h.binds hi (hmet i hi)
    rw [ha, h.within.bound ha]
    rfl
  · have hlen := h.within.length_eq
    rw [List.getElem?_eq_none (by omega), List.getElem?_eq_none (by omega)]
    rfl

end Bindings.Matched

section
variable {owner : TypeName} {args : List Ty}

theorem unify_param (o : TypeName) (i : Nat) {b : Bindings} (hb : b.Within args) :
    ∃ b', unify owner (.param o i) ((Ty.param o i).subst owner (args.map some)) b = some b' ∧
      Bindings.Matched args ((Ty.param o i).mentionsParam owner ·) b b' := by
  by_cases ho : o = owner
  · subst ho
    simp only [Ty.mentionsParam_param]
    rw [unify, if_pos rfl]
    by_cases hi : i < args.length
    · have hsubst : (Ty.param o i).subst o (args.map some) = args[i] := by simp [Ty.subst, hi]
      have hlen : i < b.length := hb.length_eq ▸ hi
      have hget : b[i]? = some b[i] := List.getElem?_eq_getElem hlen
      rw [hsubst, hget]
      cases hbi : b[i] with
      | none => exact ⟨_, rfl, .set hb hi (hget.trans (congrArg some hbi))⟩
      | some bound =>
        have hbound := hb.bound (hget.trans (congrArg some hbi))
        rw [List.getElem?_eq_getElem hi, Option.some.injEq] at hbound
        refine ⟨b, if_pos hbound.symm, hb, id, fun _ hj => ?_⟩
        rw [← of_decide_eq_true hj, hget, hbi]
        exact ⟨bound, rfl⟩
    · have hsubst : (Ty.param o i).subst o (args.map some) = .param o i := by simp [Ty.subst, hi]
      have hget : b[i]? = none := List.getElem?_eq_none (by have := hb.length_eq; omega)
      rw [hsubst, hget]
      exact ⟨b, if_pos rfl, .refl hb fun j hj => decide_eq_false (by omega)⟩
  · have hsubst : (Ty.param o i).subst owner (args.map some) = .param o i := by simp [Ty.subst, ho]
    refine ⟨b, ?_, .refl hb fun j _ => ?_⟩
    · rw [hsubst, unify, if_neg ho, if_pos rfl]
    · simp [Ty.mentionsParam, Ty.mentions, ho]

/-- A type without parameters matches itself only, and binds nothing. -/
theorem unify_literal {x : Ty} (hx : x.mentions (fun o _ => o = owner) = false)
    (hliteral : ∀ y b, unify owner x y b = if x = y then some b else none) {b : Bindings}
    (hb : b.Within args) :
    ∃ b', unify owner x (x.subst owner (args.map some)) b = some b' ∧
      Bindings.Matched args (x.mentionsParam owner ·) b b' := by
  refine ⟨b, ?_, .refl hb fun i _ => Ty.mentionsParam_eq_false hx i⟩
  rw [Ty.subst_eq_self _ x hx, hliteral, if_pos rfl]

mutual

theorem unify_subst : ∀ (x : Ty) {b : Bindings}, x.isMatchable owner = true → b.Within args →
    ∃ b', unify owner x (x.subst owner (args.map some)) b = some b' ∧
      Bindings.Matched args (x.mentionsParam owner ·) b b'
  | .basic _, b, _, hb => ⟨b, by simp [unify, Ty.subst], .refl hb fun _ _ => rfl⟩
  | .param o i, b, _, hb => unify_param o i hb
  | .named _ xs, b, hx, hb => by
    obtain ⟨b', hunify, hmatched⟩ := unifyAll_subst xs hx hb
    exact ⟨b', by simpa [unify, Ty.subst] using hunify, hmatched⟩
  | .pointer x, b, hx, hb | .slice x, b, hx, hb | .array _ x, b, hx, hb | .chan _ x, b, hx, hb => by
    obtain ⟨b', hunify, hmatched⟩ := unify_subst x hx hb
    exact ⟨b', by simpa [unify, Ty.subst] using hunify, hmatched⟩
  | .map k v, b, hx, hb => by
    obtain ⟨hk, hv⟩ := Bool.and_eq_true_iff.mp hx
    obtain ⟨b₁, hunify₁, hmatched₁⟩ := unify_subst k hk hb
    obtain ⟨b₂, hunify₂, hmatched₂⟩ := unify_subst v hv hmatched₁.within
    exact ⟨b₂, by simp [unify, Ty.subst, hunify₁, hunify₂], hmatched₁.trans hmatched₂⟩
  | .func ps rs _, b, hx, hb => by
    obtain ⟨hps, hrs⟩ := Bool.and_eq_true_iff.mp hx
    obtain ⟨b₁, hunify₁, hmatched₁⟩ := unifyAll_subst ps hps hb
    obtain ⟨b₂, hunify₂, hmatched₂⟩ := unifyAll_subst rs hrs hmatched₁.within
    exact ⟨b₂, by simp [unify, Ty.subst, hunify₁, hunify₂], hmatched₁.trans hmatched₂⟩
  | .struct _ _, _, hx, hb | .interface _ _ _ _ _, _, hx, hb =>
    unify_literal (Bool.not_eq_true' _ ▸ hx) (fun _ _ => by simp [unify]) hb

theorem unifyAll_subst : ∀ (xs : List Ty) {b : Bindings}, Ty.areMatchable owner xs = true → b.Within args →
    ∃ b', unifyAll owner xs (Ty.substAll owner (args.map some) xs) b = some b' ∧
      Bindings.Matched args (fun i => Ty.anyMentions (fun o j => o = owner && j = i) xs) b b'
  | [], b, _, hb => ⟨b, rfl, .refl hb fun _ _ => rfl⟩
  | x :: xs, b, hxs, hb => by
    obtain ⟨hx, hxs⟩ := Bool.and_eq_true_iff.mp hxs
    obtain ⟨b₁, hunify₁, hmatched₁⟩ := unify_subst x hx hb
    obtain ⟨b₂, hunify₂, hmatched₂⟩ := unifyAll_subst xs hxs hmatched₁.within
    exact ⟨b₂, by simp [unifyAll, Ty.substAll, hunify₁, hunify₂], hmatched₁.trans hmatched₂⟩

end

end

mutual

theorem length_unify {owner : TypeName} : ∀ (x y : Ty) {b b' : Bindings},
    unify owner x y b = some b' → b'.length = b.length
  | .basic _, y, b, b', h => by
    cases y <;> simp_all [unify]
  | .param o i, y, b, b', h => by
    rw [unify] at h
    grind
  | .named _ xs, y, b, b', h => by
    cases y with
    | named _ ys =>
      simp only [unify, Option.ite_none_right_eq_some] at h
      exact length_unifyAll xs ys h.2
    | _ => simp [unify] at h
  | .pointer x, y, b, b', h => by
    cases y with
    | pointer y => exact length_unify x y h
    | _ => simp [unify] at h
  | .slice x, y, b, b', h => by
    cases y with
    | slice y => exact length_unify x y h
    | _ => simp [unify] at h
  | .array _ x, y, b, b', h => by
    cases y with
    | array _ y =>
      simp only [unify, Option.ite_none_right_eq_some] at h
      exact length_unify x y h.2
    | _ => simp [unify] at h
  | .chan _ x, y, b, b', h => by
    cases y with
    | chan _ y =>
      simp only [unify, Option.ite_none_right_eq_some] at h
      exact length_unify x y h.2
    | _ => simp [unify] at h
  | .map k v, y, b, b', h => by
    cases y with
    | map l w =>
      obtain ⟨b₁, h₁, h₂⟩ := Option.bind_eq_some_iff.mp h
      exact (length_unify v w h₂).trans (length_unify k l h₁)
    | _ => simp [unify] at h
  | .func ps rs _, y, b, b', h => by
    cases y with
    | func qs ss _ =>
      simp only [unify, Option.ite_none_right_eq_some] at h
      obtain ⟨b₁, h₁, h₂⟩ := Option.bind_eq_some_iff.mp h.2
      exact (length_unifyAll rs ss h₂).trans (length_unifyAll ps qs h₁)
    | _ => simp [unify] at h
  | .struct _ _, y, b, b', h | .interface _ _ _ _ _, y, b, b', h => by
    cases y <;> simp_all [unify]

theorem length_unifyAll {owner : TypeName} : ∀ (xs ys : List Ty) {b b' : Bindings},
    unifyAll owner xs ys b = some b' → b'.length = b.length
  | [], [], _, _, h => congrArg List.length (Option.some.inj h).symm
  | x :: xs, y :: ys, b, b', h => by
    obtain ⟨b₁, h₁, h₂⟩ := Option.bind_eq_some_iff.mp h
    exact (length_unifyAll xs ys h₂).trans (length_unify x y h₁)
  | [], _ :: _, _, _, h | _ :: _, [], _, _, h => by simp [unifyAll] at h

end

end ServiceAnnotations.Types
