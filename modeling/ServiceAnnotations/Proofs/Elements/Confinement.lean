import ServiceAnnotations.Proofs.Elements.Steps

/-! # A scan keeps to its package

What is known of packages and types is shared by all scans. A scan of one package reads and changes only
what is known of that package and its types, also when it fails halfway. -/
namespace ServiceAnnotations.Elements
open Registry Source ServiceAnnotations.Types

variable {α β : Type}

/-- The same is known of the packages in a set, and of their types. Predeclared types have no package. -/
structure Known.AgreeOn (area : Option String → Prop) (k₁ k₂ : Known) : Prop where
  package : ∀ id, area (some id) → k₁.package id = k₂.package id
  type : ∀ n : TypeName, area n.package → k₁.type n = k₂.type n

namespace Known.AgreeOn
variable {area area' : Option String → Prop} {k₁ k₂ k₃ : Known}

theorem refl (k : Known) : AgreeOn area k k := ⟨fun _ _ => rfl, fun _ _ => rfl⟩

theorem symm (h : AgreeOn area k₁ k₂) : AgreeOn area k₂ k₁ :=
  ⟨fun id hid => (h.package id hid).symm, fun n hn => (h.type n hn).symm⟩

theorem trans (h₁ : AgreeOn area k₁ k₂) (h₂ : AgreeOn area k₂ k₃) : AgreeOn area k₁ k₃ :=
  ⟨fun id hid => (h₁.package id hid).trans (h₂.package id hid),
    fun n hn => (h₁.type n hn).trans (h₂.type n hn)⟩

theorem mono (h : AgreeOn area k₁ k₂) (hsub : ∀ id, area' id → area id) : AgreeOn area' k₁ k₂ :=
  ⟨fun id hid => h.package id (hsub _ hid), fun n hn => h.type n (hsub _ hn)⟩

end Known.AgreeOn

theorem Known.package_updatePackage_of_ne (k : Known) {id j : String} (hne : j ≠ id)
    (f : PackageInfo → PackageInfo) : (k.updatePackage id f).package j = k.package j := by
  simp [package, updatePackage, find?_update, hne]

/-- Two states of a scan that differ at most in what is known of other packages than `own`. -/
structure Scan.SameFor (own : String) (s₁ s₂ : Scan) : Prop where
  known : s₁.known.AgreeOn (· = some own) s₂.known
  found : s₁.found = s₂.found
  processed : s₁.processed = s₂.processed

/-- A step that leaves alone what is known of other packages than `own` and does not go by it. The types
that it finds are those of `own`. -/
structure Confined (own : String) (x : ScanStep α) : Prop where
  frame : ∀ s, (x.run s).2.known.AgreeOn (· ≠ some own) s.known
  same : ∀ s₁ s₂, s₁.SameFor own s₂ →
    (x.run s₁).1 = (x.run s₂).1 ∧ (x.run s₁).2.SameFor own (x.run s₂).2
  found : ∀ s, ∀ f ∈ (x.run s).2.found, f ∈ s.found ∨ ∀ n, f.type = some n → n.package = some own

namespace Confined
variable {own : String}

theorem of_result (y : Except Misuse α) : Confined own (liftM y : ScanStep α) where
  frame _ := .refl _
  same _ _ h := ⟨rfl, h⟩
  found _ _ hf := .inl hf

theorem pure (a : α) : Confined own (Pure.pure a : ScanStep α) := of_result (.ok a)

theorem bind {x : ScanStep α} {k : α → ScanStep β} (hx : Confined own x)
    (hk : ∀ a, Confined own (k a)) : Confined own (x >>= k) where
  frame s := by
    have hframe := hx.frame s
    rw [ScanStep.run_bind]
    rcases hrun : x.run s with ⟨e | a, s'⟩
    all_goals rw [hrun] at hframe
    · exact hframe
    · exact ((hk a).frame s').trans hframe
  same s₁ s₂ h := by
    obtain ⟨hresult, hsame⟩ := hx.same s₁ s₂ h
    rw [ScanStep.run_bind, ScanStep.run_bind]
    rcases hrun₁ : x.run s₁ with ⟨result, s₁'⟩
    rcases hrun₂ : x.run s₂ with ⟨result', s₂'⟩
    rw [hrun₁, hrun₂] at hresult hsame
    obtain rfl : result = result' := hresult
    cases result with
    | error e => exact ⟨rfl, hsame⟩
    | ok a => exact (hk a).same s₁' s₂' hsame
  found s := by
    have hfound := hx.found s
    rw [ScanStep.run_bind]
    rcases hrun : x.run s with ⟨e | a, s'⟩
    all_goals rw [hrun] at hfound
    · exact hfound
    · intro f hf
      rcases (hk a).found s' f hf with hf | hf
      · exact hfound f hf
      · exact .inr hf

/-- A step may look at the state if it does the same for all states that do not differ for `own`. -/
theorem get_bind {k : Scan → ScanStep β} (hk : ∀ s, Confined own (k s))
    (hsame : ∀ s₁ s₂, Scan.SameFor own s₁ s₂ → k s₁ = k s₂) :
    Confined own ((get : ScanStep Scan) >>= k) where
  frame s := (hk s).frame s
  same s₁ s₂ h := by
    simp only [ScanStep.run_get_bind]
    rw [hsame s₁ s₂ h]
    exact (hk s₂).same s₁ s₂ h
  found s := (hk s).found s

theorem each {f : α → ScanStep Unit} (hf : ∀ a, Confined own (f a)) :
    ∀ as, Confined own (Scan.each f as)
  | [] => pure ()
  | a :: as => (hf a).bind fun _ => each hf as

theorem modify {g : Scan → Scan} (hframe : ∀ s, (g s).known.AgreeOn (· ≠ some own) s.known)
    (hsame : ∀ s₁ s₂, Scan.SameFor own s₁ s₂ → (g s₁).SameFor own (g s₂))
    (hfound : ∀ s, (g s).found = s.found) : Confined own (modify g : ScanStep Unit) where
  frame := hframe
  same s₁ s₂ h := ⟨rfl, hsame s₁ s₂ h⟩
  found s _ hf := .inl (hfound s ▸ hf)

theorem know_updateType {n : TypeName} (hn : n.package = some own) (g : TypeInfo → TypeInfo) :
    Confined own (Scan.know (·.updateType n g)) := by
  refine modify (fun s => ⟨fun _ _ => rfl, fun m hm => ?_⟩) (fun s₁ s₂ h => ⟨⟨?_, ?_⟩, h.found, h.processed⟩)
    (fun _ => rfl)
  · rw [Known.type_updateType, if_neg]
    rintro rfl
    exact hm hn
  · exact h.known.package
  · intro m hm
    simp only [Known.type_updateType, h.known.type n hn, h.known.type m hm]

theorem know_updatePackage (g : PackageInfo → PackageInfo) :
    Confined own (Scan.know (·.updatePackage own g)) := by
  refine modify (fun s => ⟨fun id hid => ?_, fun _ _ => rfl⟩) (fun s₁ s₂ h => ⟨⟨?_, ?_⟩, h.found, h.processed⟩)
    (fun _ => rfl)
  · exact Known.package_updatePackage_of_ne _ (fun heq => hid (congrArg some heq)) g
  · intro id hid
    obtain rfl : id = own := Option.some.inj hid
    rw [Known.package_updatePackage, Known.package_updatePackage, h.known.package id rfl]
  · exact h.known.type

theorem add {element : SourceElement} {type : Option TypeName}
    (htype : ∀ n, type = some n → n.package = some own) : Confined own (Scan.add element type) := by
  unfold Scan.add
  split
  · exact pure ()
  · refine ⟨fun _ => .refl _, fun s₁ s₂ h => ⟨rfl, h.known, ?_, h.processed⟩, fun s f hf => ?_⟩
    · change s₁.found ++ _ = s₂.found ++ _
      rw [h.found]
    · rcases List.mem_append.mp hf with hf | hf
      · exact .inl hf
      · obtain rfl := List.mem_singleton.mp hf
        exact .inr htype

theorem annots (p : Program) (scope : Scope) (doc : Option CommentGroup) :
    Confined own (Scan.annots p scope doc) := by
  cases doc with
  | none => exact pure []
  | some doc =>
    refine bind (modify (fun _ => .refl _) (fun s₁ s₂ h => ⟨h.known, h.found, ?_⟩) fun _ => rfl)
      fun _ => of_result _
    change doc :: s₁.processed = doc :: s₂.processed
    rw [h.processed]

end Confined

theorem typeElement_congr (p : Program) {own : String} {k₁ k₂ : Known} (h : k₁.AgreeOn (· = some own) k₂)
    {n : TypeName} (hn : n.package = some own) : typeElement p k₁ n = typeElement p k₂ n := by
  simp only [typeElement, packageElement, hn, h.type n hn, h.package own rfl]

theorem packageElement_congr (p : Program) {own : String} {k₁ k₂ : Known}
    (h : k₁.AgreeOn (· = some own) k₂) : packageElement p k₁ own = packageElement p k₂ own := by
  simp only [packageElement, h.package own rfl]

section
variable (p : Program) (scope : Scope)

theorem confined_member {own : String} (enclosing : SourceElement) (doc : Option CommentGroup) (id : Ident) :
    Confined own (Scan.member p scope enclosing doc id) :=
  (Confined.annots p scope doc).bind fun _ => .add (by simp)

theorem confined_field {own : String} {n : TypeName} (hn : n.package = some own) (f : Field) :
    Confined own (Scan.field p scope n f) := by
  refine (Confined.annots p scope f.doc).bind fun found => .each (fun id => ?_) _
  refine (Confined.know_updateType hn _).bind fun _ => .get_bind (fun _ => .add (by simp)) ?_
  intro s₁ s₂ h
  rw [typeElement_congr p h.known hn]

theorem confined_item {own : String} {n : TypeName} (hn : n.package = some own) :
    ∀ i, Confined own (Scan.item p scope n i)
  | .method doc name _ => by
    refine .get_bind (fun _ => confined_member p scope _ doc name) fun s₁ s₂ h => ?_
    rw [typeElement_congr p h.known hn]
  | .embed _ => .pure ()

theorem confined_members {own : String} {n : TypeName} (hn : n.package = some own) (e : TypeExpr) :
    Confined own (Scan.members p scope n e) := by
  unfold Scan.members
  split
  · exact .each (confined_field p scope hn) _
  · exact .each (confined_item p scope hn) _
  · exact .pure ()

theorem confined_type (spec : TypeSpec) : Confined scope.package.id (Scan.type p scope spec) := by
  have hn : (typeNameIn scope.package scope.file spec.name).package = some scope.package.id := rfl
  refine (Confined.know_updateType hn _).bind fun _ => (Confined.annots p scope spec.doc).bind fun found => ?_
  have hrest : Confined scope.package.id (do
      Scan.know (·.updateType (typeNameIn scope.package scope.file spec.name)
        fun t => { t with annots := found })
      Scan.members p scope (typeNameIn scope.package scope.file spec.name) spec.body
      Scan.add (typeElement p (← get).known (typeNameIn scope.package scope.file spec.name))
        (some (typeNameIn scope.package scope.file spec.name))) := by
    refine (Confined.know_updateType hn _).bind fun _ => (confined_members p scope hn _).bind fun _ => ?_
    refine .get_bind (fun _ => .add fun n hsome => ?_) fun s₁ s₂ h => ?_
    · rw [← Option.some.inj hsome]
      exact hn
    · rw [typeElement_congr p h.known hn]
  split
  · exact (Confined.of_result (.error _)).bind fun _ => hrest
  · exact hrest

theorem confined_decl (d : Source.Decl) : Confined scope.package.id (Scan.decl p scope d) := by
  unfold Scan.decl
  refine .get_bind (fun s => ?_) fun s₁ s₂ h => ?_
  · cases d with
    | type spec => exact confined_type p scope spec
    | const spec => exact .each (confined_member p scope _ spec.doc) _
    | var spec => exact .each (confined_member p scope _ spec.doc) _
    | func spec => exact confined_member p scope _ spec.doc spec.name
  · have htype : ∀ name, typeElement p s₁.known (.member scope.package.id name) =
        typeElement p s₂.known (.member scope.package.id name) := fun _ => typeElement_congr p h.known rfl
    simp only [packageElement_congr p h.known, htype]

end

section
variable (p : Program) (pkg : Package)

theorem confined_file (f : File) : Confined pkg.id (Scan.file p pkg f) := by
  refine Confined.bind (.modify (fun _ => .refl _) (fun _ _ h => ⟨h.known, h.found, rfl⟩) fun _ => rfl) ?_
  refine fun _ => (Confined.each (confined_decl p { package := pkg, file := f }) _).bind fun _ => ?_
  refine .get_bind (fun s => ?_) fun s₁ s₂ h => ?_
  · dsimp only
    split
    · exact .of_result (.error _)
    · exact .pure ()
  · rw [h.processed]

theorem confined_packageDoc (f : File) : Confined pkg.id (Scan.packageDoc p pkg f) :=
  (Confined.annots p _ f.doc).bind fun _ => .know_updatePackage _

theorem confined_package : Confined pkg.id (Scan.package p pkg) := by
  refine (Confined.each (confined_packageDoc p pkg) _).bind fun _ => ?_
  refine Confined.get_bind (fun s => ?_) fun s₁ s₂ h => ?_
  · exact (Confined.add (by simp)).bind fun _ => .each (confined_file p pkg) _
  · rw [packageElement_congr p h.known]

end

/-- A scan, whether or not it fails, changes nothing that is known of other packages. -/
theorem scan_agreeOn (p : Program) (pkg : Package) (k : Known) :
    (scan p pkg k).2.AgreeOn (· ≠ some pkg.id) k := by
  have hframe := (confined_package p pkg).frame { known := k }
  rw [scan_eq_run]
  rcases hrun : (Scan.package p pkg).run { known := k } with ⟨e | _, s⟩
  all_goals
    rw [hrun] at hframe
    exact hframe

/-- What a scan finds depends only on what was known of its own package. -/
theorem scan_congr (p : Program) (pkg : Package) {k₁ k₂ : Known} (h : k₁.AgreeOn (· = some pkg.id) k₂) :
    (scan p pkg k₁).1 = (scan p pkg k₂).1 ∧
      (scan p pkg k₁).2.AgreeOn (· = some pkg.id) (scan p pkg k₂).2 := by
  obtain ⟨hresult, hsame⟩ :=
    (confined_package p pkg).same { known := k₁ } { known := k₂ } ⟨h, rfl, rfl⟩
  rw [scan_eq_run, scan_eq_run]
  rcases hrun₁ : (Scan.package p pkg).run { known := k₁ } with ⟨result, s₁⟩
  rcases hrun₂ : (Scan.package p pkg).run { known := k₂ } with ⟨result', s₂⟩
  rw [hrun₁, hrun₂] at hresult hsame
  obtain rfl : result = result' := hresult
  cases result with
  | error e => exact ⟨rfl, hsame.known⟩
  | ok _ => exact ⟨congrArg Except.ok hsame.found, hsame.known⟩

/-- Scans of one package keep two states of knowledge in agreement. -/
theorem scan_agreeOn_congr (p : Program) (pkg : Package) {area : Option String → Prop} {k₁ k₂ : Known}
    (hown : area (some pkg.id)) (h : k₁.AgreeOn area k₂) :
    (scan p pkg k₁).2.AgreeOn area (scan p pkg k₂).2 := by
  have hinside := (scan_congr p pkg (h.mono fun i hi => hi ▸ hown)).2
  have houtside₁ := scan_agreeOn p pkg k₁
  have houtside₂ := scan_agreeOn p pkg k₂
  constructor
  · intro id hid
    by_cases heq : id = pkg.id
    · exact hinside.package id (congrArg some heq)
    · have hne : some id ≠ some pkg.id := fun hsome => heq (Option.some.inj hsome)
      rw [houtside₁.package id hne, houtside₂.package id hne, h.package id hid]
  · intro n hn
    by_cases heq : n.package = some pkg.id
    · exact hinside.type n heq
    · rw [houtside₁.type n heq, houtside₂.type n heq, h.type n hn]

/-- The types that a scan finds belong to its package. -/
theorem package_of_mem_scan {p : Program} {pkg : Package} {k k' : Known} {found : List Found}
    (h : scan p pkg k = (.ok found, k')) :
    ∀ f ∈ found, ∀ n, f.type = some n → n.package = some pkg.id := by
  have hfound := (confined_package p pkg).found { known := k }
  rw [scan_eq_run] at h
  rcases hrun : (Scan.package p pkg).run { known := k } with ⟨e | _, s⟩
  all_goals rw [hrun] at h hfound
  · cases h
  · obtain ⟨rfl, -⟩ : s.found = found ∧ s.known = k' := by simpa using h
    exact fun f hf => (hfound f hf).resolve_left (by simp [Scan.found])

end ServiceAnnotations.Elements
