import ServiceAnnotations.Types.Basic

/-! # Matching types with parameters against types -/
namespace ServiceAnnotations.Types

/-- The types that the parameters of a generic declaration stand for, as far as known. -/
abbrev Bindings := List (Option Ty)

mutual

/-- Matches a type that mentions the parameters of `owner` against a type that does not. -/
def unify (owner : TypeName) : Ty → Ty → Bindings → Option Bindings
  | .param o i, y, b =>
    if o = owner then
      match b[i]? with
      | some none => some (b.set i (some y))
      | some (some bound) => if bound = y then some b else none
      | none => if .param o i = y then some b else none
    else if .param o i = y then some b else none
  | .pointer x, .pointer y, b => unify owner x y b
  | .slice x, .slice y, b => unify owner x y b
  | .array m x, .array n y, b => if m = n then unify owner x y b else none
  | .map k v, .map l w, b => (unify owner k l b).bind (unify owner v w)
  | .chan d x, .chan e y, b => if d = e then unify owner x y b else none
  | .func ps rs v, .func qs ss w, b =>
    if v = w then (unifyAll owner ps qs b).bind (unifyAll owner rs ss) else none
  | .named m xs, .named n ys, b => if m = n then unifyAll owner xs ys b else none
  | x, y, b => if x = y then some b else none

def unifyAll (owner : TypeName) : List Ty → List Ty → Bindings → Option Bindings
  | [], [], b => some b
  | x :: xs, y :: ys, b => (unify owner x y b).bind (unifyAll owner xs ys)
  | _, _, _ => none

end

namespace Ty

mutual

/-- A type with types in place of the parameters of `owner`, as far as they are known. -/
def subst (owner : TypeName) (b : Bindings) : Ty → Ty
  | basic x => basic x
  | named n args => named n (substAll owner b args)
  | param o i => if o = owner then ((b[i]?).bind id).getD (param o i) else param o i
  | pointer x => pointer (subst owner b x)
  | slice x => slice (subst owner b x)
  | array n x => array n (subst owner b x)
  | map k v => map (subst owner b k) (subst owner b v)
  | chan d x => chan d (subst owner b x)
  | func ps rs v => func (substAll owner b ps) (substAll owner b rs) v
  | struct fs ts => struct fs (substAll owner b ts)
  | interface ms ss ti ts c => interface ms (substAll owner b ss) ti (substAll owner b ts) c

def substAll (owner : TypeName) (b : Bindings) : List Ty → List Ty
  | [] => []
  | t :: ts => subst owner b t :: substAll owner b ts

end

mutual

def isClosed : Ty → Bool
  | basic _ => true
  | param _ _ => false
  | named _ args => areClosed args
  | pointer x | slice x | array _ x | chan _ x => isClosed x
  | map k v => isClosed k && isClosed v
  | func ps rs _ => areClosed ps && areClosed rs
  | struct _ ts => areClosed ts
  | interface _ ss _ ts _ => areClosed ss && areClosed ts

def areClosed : List Ty → Bool
  | [] => true
  | t :: ts => isClosed t && areClosed ts

end

end Ty

end ServiceAnnotations.Types
