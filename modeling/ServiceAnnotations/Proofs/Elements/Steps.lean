import ServiceAnnotations.Elements.Scan

/-! # The steps of a scan

What each step of a scan does if it succeeds. Everything else that is said of scans goes by these lemmas, and does not
open the steps again. -/
namespace ServiceAnnotations.Elements
open Registry Source ServiceAnnotations.Types

variable {α β : Type}

theorem find?_update {κ : Type} [DecidableEq κ] (k j : κ) (new : α) (f : α → α) (l : List (κ × α)) :
    ((update k new f l).find? (·.1 = j)).map Prod.snd =
      if j = k then some (f (((l.find? (·.1 = k)).map Prod.snd).getD new))
      else (l.find? (·.1 = j)).map Prod.snd := by
  induction l with
  | nil =>
    by_cases hjk : j = k
    · simp [update, hjk]
    · simp [update, hjk, Ne.symm hjk]
  | cons x rest ih =>
    obtain ⟨i, a⟩ := x
    by_cases hik : i = k
    · subst hik
      by_cases hji : j = i
      · simp [update, hji]
      · simp [update, hji, Ne.symm hji]
    · by_cases hij : i = j
      · subst hij
        simp [update, hik]
      · simpa [update, hik, List.find?_cons, hij] using ih

namespace Known

theorem type_updateType (k : Known) (n m : TypeName) (f : TypeInfo → TypeInfo) :
    (k.updateType n f).type m = if m = n then f (k.type n) else k.type m := by
  simp only [type, updateType, find?_update]
  split <;> rfl

theorem package_updatePackage (k : Known) (id : String) (f : PackageInfo → PackageInfo) :
    (k.updatePackage id f).package id = f (k.package id) := by
  simp [package, updatePackage, find?_update]

end Known

/-- The elements of a package as those that a scan has found in the end. -/
theorem scan_eq_run (p : Program) (pkg : Package) (known : Known) :
    scan p pkg known = match (Scan.package p pkg).run { known } with
      | (.ok (), s) => (.ok s.found, s.known)
      | (.error e, s) => (.error e, s.known) := by
  rw [scan, scanListing]
  rcases (Scan.package p pkg).run { known } with ⟨_ | _, s⟩ <;> rfl

namespace ScanStep

theorem run_bind (x : ScanStep α) (k : α → ScanStep β) (s : Scan) :
    (x >>= k).run s = match x.run s with
      | (.ok a, s₁) => (k a).run s₁
      | (.error e, s₁) => (.error e, s₁) := by
  change (StateT.bind x.run (ExceptT.bindCont k) s : Except Misuse β × Scan) = _
  rw [StateT.bind]
  rcases x.run s with ⟨e | a, s₁⟩ <;> rfl

theorem bind_eq_ok_iff {x : ScanStep α} {k : α → ScanStep β} {s s' : Scan} {b : β} :
    (x >>= k).run s = (.ok b, s') ↔
      ∃ a s₁, x.run s = (.ok a, s₁) ∧ (k a).run s₁ = (.ok b, s') := by
  rw [run_bind]
  rcases x.run s with ⟨e | a, s₁⟩
  · exact ⟨nofun, nofun⟩
  · constructor
    · exact fun h => ⟨a, s₁, rfl, h⟩
    · rintro ⟨_, _, ha, h⟩
      cases ha
      exact h

@[simp] theorem run_get_bind (k : Scan → ScanStep β) (s : Scan) :
    ((get : ScanStep Scan) >>= k).run s = (k s).run s := rfl

@[simp] theorem run_modify_bind (f : Scan → Scan) (k : Unit → ScanStep β) (s : Scan) :
    ((modify f : ScanStep Unit) >>= k).run s = (k ()).run (f s) := rfl

@[simp] theorem run_know_bind (f : Known → Known) (k : Unit → ScanStep β) (s : Scan) :
    (Scan.know f >>= k).run s = (k ()).run { s with known := f s.known } := rfl

@[simp] theorem run_liftM (x : Except Misuse α) (s : Scan) : (liftM x : ScanStep α).run s = (x, s) := rfl

/-- A loop that succeeds is known by what its steps do. -/
theorem run_each {f : α → ScanStep Unit} {R : List α → Scan → Scan → Prop} (hnil : ∀ s, R [] s s)
    (hcons : ∀ {a as s s₁ s₂}, (f a).run s = (.ok (), s₁) → R as s₁ s₂ → R (a :: as) s s₂)
    {as : List α} {s s' : Scan} (h : (Scan.each f as).run s = (.ok (), s')) : R as s s' := by
  induction as generalizing s with
  | nil =>
    obtain ⟨-, rfl⟩ := Prod.mk.inj h
    exact hnil s
  | cons a as ih =>
    obtain ⟨_, s₁, ha, has⟩ := bind_eq_ok_iff.mp h
    exact hcons ha (ih has)

end ScanStep

/-- The annotations of a comment that can be read. -/
def docAnnots (p : Program) (scope : Scope) (doc : Option CommentGroup) : List SourceAnnot :=
  match doc with
  | none => []
  | some doc => (annotsOf p scope doc).toOption.getD []

namespace Scan

def looked (s : Scan) (doc : Option CommentGroup) : Scan := { s with processed := doc.toList ++ s.processed }

@[simp] theorem looked_known (s : Scan) (doc : Option CommentGroup) : (s.looked doc).known = s.known := rfl

@[simp] theorem looked_listing (s : Scan) (doc : Option CommentGroup) : (s.looked doc).listing = s.listing := rfl

@[simp] theorem looked_found (s : Scan) (doc : Option CommentGroup) : (s.looked doc).found = s.found := rfl

@[simp] theorem looked_processed (s : Scan) (doc : Option CommentGroup) :
    (s.looked doc).processed = doc.toList ++ s.processed := rfl

def addField (p : Program) (n : TypeName) (i : FieldInfo) : ScanStep Unit := do
  know (·.updateType n fun t => { t with fields := t.fields ++ [i] })
  add (memberElement (typeElement p (← get).known n) i.name i.pos i.annots) none

def typeKnown (p : Program) (scope : Scope) (spec : TypeSpec) (k : Known) : Known :=
  let n := typeNameIn scope.package scope.file spec.name
  (k.updateType n fun t => { t with pos := spec.name.spot.inFile scope.file.path }).updateType n
    fun t => { t with annots := docAnnots p scope spec.doc }

theorem type_typeKnown (p : Program) (scope : Scope) (spec : TypeSpec) (k : Known) (m : TypeName) :
    (typeKnown p scope spec k).type m = if m = typeNameIn scope.package scope.file spec.name then
      { k.type m with
        pos := spec.name.spot.inFile scope.file.path
        annots := docAnnots p scope spec.doc } else k.type m := by
  rw [typeKnown, Known.type_updateType, Known.type_updateType, if_pos rfl]
  split
  · simp [*]
  · rw [Known.type_updateType, if_neg ‹_›]

end Scan

namespace ScanStep
variable {p : Program} {scope : Scope} {s s' : Scan}

/-- An element is added if it has annotations. -/
theorem run_add {e : SourceElement} {n : Option TypeName} (h : (Scan.add e n).run s = (.ok (), s')) :
    e.annots = [] ∧ s' = s ∨ e.annots ≠ [] ∧ s' = { s with listing := s.listing.add ⟨e, n⟩ } := by
  unfold Scan.add at h
  split at h
  · rename_i hempty
    obtain ⟨-, rfl⟩ := Prod.mk.inj h
    exact .inl ⟨List.isEmpty_iff.mp hempty, rfl⟩
  · rename_i hsome
    obtain ⟨-, rfl⟩ := Prod.mk.inj h
    exact .inr ⟨fun hempty => hsome (List.isEmpty_iff.mpr hempty), rfl⟩

theorem run_add_keeps {e : SourceElement} {n : Option TypeName} (h : (Scan.add e n).run s = (.ok (), s')) :
    s'.known = s.known ∧ s'.processed = s.processed ∧ ∀ x ∈ s.found, x ∈ s'.found := by
  obtain ⟨-, rfl⟩ | ⟨-, rfl⟩ := run_add h
  · exact ⟨rfl, rfl, fun _ hx => hx⟩
  · exact ⟨rfl, rfl, fun _ hx => List.mem_append_left _ hx⟩

/-- An element with annotations is found. -/
theorem mem_found_of_add {e : SourceElement} {n : Option TypeName} (h : (Scan.add e n).run s = (.ok (), s'))
    (hannots : e.annots ≠ []) : ⟨e, n⟩ ∈ s'.found := by
  obtain ⟨hnone, -⟩ | ⟨-, rfl⟩ := run_add h
  · exact absurd hnone hannots
  · exact List.mem_append_right _ List.mem_cons_self

theorem exists_mem_found_of_add {e : SourceElement} {n : Option TypeName}
    (h : (Scan.add e n).run s = (.ok (), s')) : ∀ a ∈ e.annots, ∃ x ∈ s'.found, a ∈ x.element.annots :=
  fun _ ha => ⟨_, mem_found_of_add h (List.ne_nil_of_mem ha), ha⟩

theorem run_annots {doc : Option CommentGroup} {found : List SourceAnnot}
    (h : (Scan.annots p scope doc).run s = (.ok found, s')) :
    s' = s.looked doc ∧ found = docAnnots p scope doc ∧
      ∀ d ∈ doc, annotsOf p scope d = .ok (docAnnots p scope doc) := by
  cases doc with
  | none =>
    obtain ⟨hfound, rfl⟩ := Prod.mk.inj h
    exact ⟨rfl, (Except.ok.inj hfound).symm, by simp⟩
  | some d =>
    simp only [Scan.annots, run_modify_bind, run_liftM] at h
    obtain ⟨hfound, rfl⟩ := Prod.mk.inj h
    have hannots : found = docAnnots p scope (some d) := by
      rw [docAnnots, hfound]
      rfl
    exact ⟨rfl, hannots, by simpa [← hannots] using hfound⟩

/-- A member is added with the annotations of its comment. -/
theorem run_member {enclosing : SourceElement} {doc : Option CommentGroup} {id : Ident}
    (h : (Scan.member p scope enclosing doc id).run s = (.ok (), s')) :
    (∀ d ∈ doc, annotsOf p scope d = .ok (docAnnots p scope doc)) ∧
      (Scan.add (memberElement enclosing id.name (id.spot.inFile scope.file.path) (docAnnots p scope doc))
        none).run (s.looked doc) = (.ok (), s') := by
  obtain ⟨_, _, hannots, hadd⟩ := bind_eq_ok_iff.mp h
  obtain ⟨rfl, rfl, hdoc⟩ := run_annots hannots
  exact ⟨hdoc, hadd⟩

theorem run_addField {n : TypeName} {i : FieldInfo} (h : (Scan.addField p n i).run s = (.ok (), s')) :
    ∃ k, k = s.known.updateType n (fun t => { t with fields := t.fields ++ [i] }) ∧
      (Scan.add (memberElement (typeElement p k n) i.name i.pos i.annots) none).run { s with known := k } =
        (.ok (), s') :=
  ⟨_, rfl, h⟩

/-- The comment of a field is read once. Then each of its names becomes known and is added. -/
theorem run_field {n : TypeName} {f : Field} (h : (Scan.field p scope n f).run s = (.ok (), s')) :
    (∀ d ∈ f.doc, annotsOf p scope d = .ok (docAnnots p scope f.doc)) ∧
      (Scan.each (fun id => Scan.addField p n
        ⟨id.name, id.spot.inFile scope.file.path, docAnnots p scope f.doc, f.type, scope⟩)
        (Scan.fieldIdents f)).run (s.looked f.doc) = (.ok (), s') := by
  obtain ⟨_, _, hannots, hnames⟩ := bind_eq_ok_iff.mp h
  obtain ⟨rfl, rfl, hdoc⟩ := run_annots hannots
  exact ⟨hdoc, hnames⟩

/-- An item of an interface is added if it is a method. -/
theorem run_item {n : TypeName} {i : InterfaceItem} (h : (Scan.item p scope n i).run s = (.ok (), s')) :
    (∃ doc name sig, i = .method doc name sig ∧
      (Scan.member p scope (typeElement p s.known n) doc name).run s = (.ok (), s')) ∨
    ∃ terms, i = .embed terms ∧ s' = s := by
  cases i with
  | method doc name sig => exact .inl ⟨doc, name, sig, rfl, h⟩
  | embed terms => exact .inr ⟨terms, rfl, (Prod.mk.inj h).2.symm⟩

/-- Something becomes known of a type, then its members are added, and then the type itself. There are no
annotations on aliases. -/
theorem run_type {spec : TypeSpec} (h : (Scan.type p scope spec).run s = (.ok (), s')) :
    (∀ d ∈ spec.doc, annotsOf p scope d = .ok (docAnnots p scope spec.doc)) ∧
      (spec.isAlias → docAnnots p scope spec.doc = []) ∧
      ∃ s₁, (Scan.members p scope (typeNameIn scope.package scope.file spec.name) spec.body).run
          { s.looked spec.doc with known := Scan.typeKnown p scope spec s.known } = (.ok (), s₁) ∧
        (Scan.add (typeElement p s₁.known (typeNameIn scope.package scope.file spec.name))
          (some (typeNameIn scope.package scope.file spec.name))).run s₁ = (.ok (), s') := by
  unfold Scan.type at h
  simp only [run_know_bind] at h
  obtain ⟨_, _, hannots, h⟩ := bind_eq_ok_iff.mp h
  obtain ⟨rfl, rfl, hdoc⟩ := run_annots hannots
  split at h
  · obtain ⟨_, _, hthrow, -⟩ := bind_eq_ok_iff.mp h
    cases hthrow
  · rename_i hnone
    simp only [run_know_bind] at h
    obtain ⟨_, s₁, hmembers, hadd⟩ := bind_eq_ok_iff.mp h
    exact ⟨hdoc, fun halias => by simpa [halias] using hnone, s₁, hmembers, hadd⟩

/-- The declarations of a file are added. All annotated comments in it were looked at for them. -/
theorem run_file {pkg : Package} {f : File} (h : (Scan.file p pkg f).run s = (.ok (), s')) :
    (Scan.each (Scan.decl p { package := pkg, file := f }) f.decls).run { s with processed := [] } = (.ok (), s') ∧
      ∀ doc ∈ f.docs, (findAnnotPlace? f.path doc).isSome → doc ∈ s'.processed := by
  simp only [Scan.file, run_modify_bind] at h
  obtain ⟨_, s₁, hdecls, h⟩ := bind_eq_ok_iff.mp h
  simp only [run_get_bind] at h
  split at h
  · cases h
  · rename_i hnone
    obtain ⟨-, rfl⟩ := Prod.mk.inj h
    refine ⟨hdecls, fun doc hdoc hsome => ?_⟩
    -- An annotated comment that was not looked at would have been misplaced.
    by_cases hseen : doc ∈ s₁.processed
    · exact hseen
    · have hplace := List.findSome?_eq_none_iff.mp hnone doc
        (List.mem_filter.mpr ⟨hdoc, by simpa using hseen⟩)
      simp [hplace] at hsome

/-- The comment of a file on its package makes annotations of the package known. -/
theorem run_packageDoc {pkg : Package} {f : File} (h : (Scan.packageDoc p pkg f).run s = (.ok (), s')) :
    (∀ d ∈ f.doc, annotsOf p { package := pkg, file := f } d =
        .ok (docAnnots p { package := pkg, file := f } f.doc)) ∧
      ∃ pos : PackageInfo → Place, s' = { s.looked f.doc with
        known := s.known.updatePackage pkg.id fun i =>
          { annots := i.annots ++ docAnnots p { package := pkg, file := f } f.doc, pos := pos i } } := by
  simp only [Scan.packageDoc] at h
  obtain ⟨_, _, hannots, h⟩ := bind_eq_ok_iff.mp h
  obtain ⟨rfl, rfl, hdoc⟩ := run_annots hannots
  obtain ⟨-, rfl⟩ := Prod.mk.inj h
  exact ⟨hdoc, _, rfl⟩

/-- The comments on a package are read first, then the package is added, and then its files. -/
theorem run_package {pkg : Package} (h : (Scan.package p pkg).run s = (.ok (), s')) :
    ∃ s₁ s₂, (Scan.each (Scan.packageDoc p pkg) pkg.files).run s = (.ok (), s₁) ∧
      (Scan.add (packageElement p s₁.known pkg.id) none).run s₁ = (.ok (), s₂) ∧
      (Scan.each (Scan.file p pkg) pkg.files).run s₂ = (.ok (), s') := by
  simp only [Scan.package] at h
  obtain ⟨_, s₁, hdocs, h⟩ := bind_eq_ok_iff.mp h
  simp only [run_get_bind] at h
  obtain ⟨_, s₂, hadd, hfiles⟩ := bind_eq_ok_iff.mp h
  exact ⟨s₁, s₂, hdocs, hadd, hfiles⟩

end ScanStep

end ServiceAnnotations.Elements
