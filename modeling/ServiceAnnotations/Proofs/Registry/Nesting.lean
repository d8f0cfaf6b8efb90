import ServiceAnnotations.Proofs.Text.Bytes
import ServiceAnnotations.Registry.Element

/-! # Taking binary names apart

A binary name tells the package of a type and the names of the types around it: no simple name has a dot or a
dollar sign, so the last dot ends the package, and each dollar sign behind it ends the name of a type. -/
namespace ServiceAnnotations.Registry

/-- Whether a name has neither of the signs that are put between names. -/
def IsSimple (n : Bytes) : Prop := 0x2e ∉ n ∧ 0x24 ∉ n

instance (n : Bytes) : Decidable (IsSimple n) := inferInstanceAs (Decidable (_ ∧ _))

def Frame.isPackage (f : Frame) : Bool :=
  match f.kind with
  | .ok kind => kind = .package
  | .error _ => false

def typesAround (outer : List Frame) : List Frame := outer.takeWhile (!·.isPackage)

/-- The name of the package around something. The unnamed package counts for a missing one. -/
def packageAround (outer : List Frame) : Bytes := ((outer.find? Frame.isPackage).map Frame.qualifiedName).getD []

def inPackage (package name : Bytes) : Bytes := if package = [] then name else package ++ 0x2e :: name

namespace TypeRef
variable {τ : Type}

/-- The simple names of the types around a type and its own, outermost first. -/
def chain (t : TypeRef τ) : List Bytes := (typesAround t.outer).reverse.map Frame.simpleName ++ [t.frame.simpleName]

/-- The name of the package that a type is declared in. -/
def package (t : TypeRef τ) : Bytes := packageAround t.outer

/-- Whether the host can tell what the declarations around a type are. -/
def IsTold (t : TypeRef τ) : Prop := ∀ f ∈ typesAround t.outer, ∃ kind, f.kind = .ok kind

end TypeRef

section
variable {f : Frame} {outer : List Frame} {kind : ElementKind} (hkind : f.kind = .ok kind) (name : Bytes)
include hkind

theorem binaryNameFrom_package (h : kind = .package) :
    binaryNameFrom (f :: outer) name = .ok (inPackage f.qualifiedName name) := by
  rw [binaryNameFrom, hkind, h, inPackage]
  by_cases hq : f.qualifiedName = []
  · simp [bind, Except.bind, pure, Except.pure, hq]
  · simp [bind, Except.bind, pure, Except.pure, hq]
    rfl

theorem binaryNameFrom_type (h : kind ≠ .package) :
    binaryNameFrom (f :: outer) name = binaryNameFrom outer (f.simpleName ++ 0x24 :: name) := by
  rw [binaryNameFrom, hkind]
  simp [bind, Except.bind, h]
  rfl

end

theorem binaryNameFrom_eq {outer : List Frame} (htold : ∀ f ∈ typesAround outer, ∃ kind, f.kind = .ok kind)
    (name : Bytes) :
    binaryNameFrom outer name = .ok (inPackage (packageAround outer)
      (Bytes.join [0x24] ((typesAround outer).reverse.map Frame.simpleName ++ [name]))) := by
  induction outer generalizing name with
  | nil => rfl
  | cons f outer ih =>
    by_cases hpackage : f.kind = .ok .package
    · have hf : f.isPackage = true := by simp [Frame.isPackage, hpackage]
      rw [binaryNameFrom_package hpackage name rfl]
      simp [typesAround, packageAround, hf, Bytes.join]
    · have hf : f.isPackage = false := by
        cases hkind : f.kind with
        | error cause => simp [Frame.isPackage, hkind]
        | ok kind => simpa [Frame.isPackage, hkind] using hpackage
      have htypes : typesAround (f :: outer) = f :: typesAround outer := by simp [typesAround, hf]
      have hpkg : packageAround (f :: outer) = packageAround outer := by simp [packageAround, hf]
      rw [htypes] at htold
      obtain ⟨⟨kind, hkind⟩, htold⟩ := List.forall_mem_cons.mp htold
      have htype : kind ≠ .package := by
        rintro rfl
        exact hpackage hkind
      rw [binaryNameFrom_type hkind name htype, ih htold, htypes, hpkg, Bytes.join_append_pair]
      simp

/-- A name in a package tells the package and itself, unless it has a dot. -/
theorem inPackage_inj {p q n m : Bytes} (hn : 0x2e ∉ n) (hm : 0x2e ∉ m) :
    inPackage p n = inPackage q m ↔ p = q ∧ n = m := by
  have hdot : ∀ b x : Bytes, 0x2e ∈ b ++ 0x2e :: x := fun b x => by simp
  by_cases hp : p = [] <;> by_cases hq : q = []
  · simp [inPackage, hp, hq]
  · refine ⟨fun h => absurd (?_ : 0x2e ∈ n) hn, fun h => absurd (h.1.symm.trans hp) hq⟩
    rw [inPackage, inPackage, if_pos hp, if_neg hq] at h
    exact h ▸ hdot q m
  · refine ⟨fun h => absurd (?_ : 0x2e ∈ m) hm, fun h => absurd (h.1.trans hq) hp⟩
    rw [inPackage, inPackage, if_neg hp, if_pos hq] at h
    exact h ▸ hdot p n
  · rw [inPackage, inPackage, if_neg hp, if_neg hq, Bytes.append_cons_inj hn hm]

theorem dot_notMem_join {names : List Bytes} (h : ∀ n ∈ names, IsSimple n) : 0x2e ∉ Bytes.join [0x24] names := by
  intro hmem
  obtain hdot | ⟨n, hn, hdot⟩ := Bytes.mem_join hmem
  · cases hdot
  · exact (h n hn).1 hdot

/-- A chain of simple names in a package can be told from what it is put together to. -/
theorem inPackage_join_inj {p q : Bytes} {names names' : List Bytes} (hne : names ≠ []) (hne' : names' ≠ [])
    (h : ∀ n ∈ names, IsSimple n) (h' : ∀ n ∈ names', IsSimple n) :
    inPackage p (Bytes.join [0x24] names) = inPackage q (Bytes.join [0x24] names') ↔ p = q ∧ names = names' := by
  rw [inPackage_inj (dot_notMem_join h) (dot_notMem_join h'),
    Bytes.join_inj hne hne' (fun n hn => (h n hn).2) fun n hn => (h' n hn).2]

namespace TypeRef
variable {τ : Type} {t u : TypeRef τ}

theorem chain_ne_nil (t : TypeRef τ) : t.chain ≠ [] := by simp [chain]

theorem binaryName_eq (ht : t.IsTold) : t.binaryName = .ok (inPackage t.package (Bytes.join [0x24] t.chain)) :=
  binaryNameFrom_eq ht t.frame.simpleName

/-- Types have the same binary name just when they are declared in packages of the same name, inside types of the
same simple names. The names of packages may be anything. -/
theorem binaryName_eq_iff (ht : t.IsTold) (hu : u.IsTold) (htn : ∀ n ∈ t.chain, IsSimple n)
    (hun : ∀ n ∈ u.chain, IsSimple n) :
    ∃ name name', t.binaryName = .ok name ∧ u.binaryName = .ok name' ∧
      (name = name' ↔ t.chain = u.chain ∧ t.package = u.package) :=
  ⟨_, _, binaryName_eq ht, binaryName_eq hu,
    (inPackage_join_inj t.chain_ne_nil u.chain_ne_nil htn hun).trans And.comm⟩

/-- The type `C` in the type `B` of a package. -/
def inType : TypeRef Unit :=
  ⟨(), ⟨.ok .concrete, "a.B.C", "C"⟩, [⟨.ok .concrete, "a.B", "B"⟩, ⟨.ok .package, "a", "a"⟩]⟩

/-- The type `C` of a package whose name ends in `B`. -/
def inSubpackage : TypeRef Unit := ⟨(), ⟨.ok .concrete, "a.B.C", "C"⟩, [⟨.ok .package, "a.B", "B"⟩]⟩

theorem binaryName_eq_iff_levels :
    inType.binaryName = .ok (Bytes.ofString "a.B$C") ∧ inSubpackage.binaryName = .ok (Bytes.ofString "a.B.C") ∧
      ∃ name name', inType.binaryName = .ok name ∧ inSubpackage.binaryName = .ok name' ∧ name ≠ name' := by
  have htold : inType.IsTold ∧ inSubpackage.IsTold := by
    simp [IsTold, inType, inSubpackage, typesAround, Frame.isPackage]
  obtain ⟨name, name', hname, hname', hsame⟩ := binaryName_eq_iff htold.1 htold.2 (by decide) (by decide)
  exact ⟨rfl, rfl, name, name', hname, hname', mt hsame.mp (by decide)⟩

end TypeRef

end ServiceAnnotations.Registry
