import Mathlib.Data.List.Forall2
import ServiceAnnotations.Proofs.Elements.Scan

/-! # What a scan lists

A scan lists each declaration at most once, the package first, and what is listed does not change any more. What is
looked up for a type of annotations are those of the listed elements that have one, in their order. -/
namespace ServiceAnnotations.Elements
open Registry Source ServiceAnnotations.Types

/-- What may have annotations in a package. -/
inductive Declared
  | package
  | type (file : File) (id : Ident)
  /-- A field, function, method, variable or constant. -/
  | member (file : File) (id : Ident)

def declaredItem (file : File) : InterfaceItem → List Declared
  | .method _ name _ => [.member file name]
  | .embed _ => []

def declaredMembers (file : File) : TypeExpr → List Declared
  | .struct fields => fields.flatMap fun f => (Scan.fieldIdents f).map (.member file)
  | .interface items => items.flatMap (declaredItem file)
  | _ => []

/-- What a declaration declares. Members come before their type. -/
def declaredBy (file : File) : Source.Decl → List Declared
  | .type spec => declaredMembers file spec.body ++ [.type file spec.name]
  | .const spec => spec.names.map (.member file)
  | .var spec => spec.names.map (.member file)
  | .func spec => [.member file spec.name]

/-- A package and all that it declares, in the order in which it is written. -/
def declaredIn (pkg : Package) : List Declared :=
  .package :: pkg.files.flatMap fun f => f.decls.flatMap (declaredBy f)

/-- Whether an element shows a declaration with all that is known of it. -/
def Declared.Shows (p : Program) (pkg : Package) (known : Known) (d : Declared) (f : Found) : Prop :=
  match d with
  | package => f = ⟨packageElement p known pkg.id, none⟩
  | type file id =>
    let n := typeNameIn pkg file id
    f = ⟨typeElement p known n, some n⟩
  | member file id => ∃ enclosing annots,
    f = ⟨memberElement enclosing id.name (id.spot.inFile file.path) annots, none⟩

/-- The types among declarations. -/
def typesOf (pkg : Package) (ds : List Declared) : List TypeName :=
  ds.filterMap fun
    | .type file id => some (typeNameIn pkg file id)
    | _ => none

/-- What a part of a scan adds: elements that show some of the given declarations, in this order. Nothing else that can
be seen of elements is changed. -/
structure Collects (p : Program) (pkg : Package) (ds : List Declared) (s s' : Scan) : Prop where
  added : ∃ shown new, shown.Sublist ds ∧ List.Forall₂ (Declared.Shows p pkg s'.known) shown new ∧
    s'.listing = new.foldl .add s.listing
  packages : s'.known.packages = s.known.packages
  kept : ∀ n ∉ typesOf pkg ds, typeElement p s'.known n = typeElement p s.known n

theorem typesOf_append (pkg : Package) (ds ds' : List Declared) :
    typesOf pkg (ds ++ ds') = typesOf pkg ds ++ typesOf pkg ds' := List.filterMap_append

theorem typesOf_flatMap {pkg : Package} {α : Type} {g : α → List Declared} (hg : ∀ a, typesOf pkg (g a) = [])
    (as : List α) : typesOf pkg (as.flatMap g) = [] := by
  induction as with
  | nil => rfl
  | cons a as ih => rw [List.flatMap_cons, typesOf_append, hg, ih, List.append_nil]

section
variable {p : Program} {pkg : Package}

theorem packageElement_of_packages {k k' : Known} (h : k'.packages = k.packages) (id : String) :
    packageElement p k' id = packageElement p k id := by
  simp only [packageElement, Known.package, h]

theorem typeElement_of_info {k k' : Known} (h : k'.packages = k.packages) {n : TypeName}
    (hannots : (k'.type n).annots = (k.type n).annots) (hpos : (k'.type n).pos = (k.type n).pos) :
    typeElement p k' n = typeElement p k n := by
  simp only [typeElement, hannots, hpos, packageElement_of_packages h]

/-- What a declaration shows stays as it is if its type does. -/
theorem Declared.Shows.mono {k k' : Known} {d : Declared} {f : Found} (h : d.Shows p pkg k f)
    (hpackages : k'.packages = k.packages)
    (hkept : ∀ n ∈ typesOf pkg [d], typeElement p k' n = typeElement p k n) : d.Shows p pkg k' f := by
  cases d with
  | package => exact h.trans (by rw [packageElement_of_packages hpackages])
  | type file id => exact h.trans (by rw [hkept _ (by simp [typesOf])])
  | member file id => exact h

namespace Collects
variable {ds ds' : List Declared} {s s₁ s₂ s' : Scan}

theorem refl (s : Scan) : Collects p pkg [] s s := ⟨⟨[], [], .slnil, .nil, rfl⟩, rfl, fun _ _ => rfl⟩

theorem trans (hdistinct : (typesOf pkg (ds ++ ds')).Nodup) (h₁ : Collects p pkg ds s s₁)
    (h₂ : Collects p pkg ds' s₁ s₂) : Collects p pkg (ds ++ ds') s s₂ := by
  rw [typesOf_append] at hdistinct
  obtain ⟨-, -, hapart⟩ := List.nodup_append.mp hdistinct
  obtain ⟨shown, new, hsub, hshows, hlisting⟩ := h₁.added
  obtain ⟨shown', new', hsub', hshows', hlisting'⟩ := h₂.added
  constructor
  · refine ⟨shown ++ shown', new ++ new', hsub.append hsub', ?_, by rw [hlisting', hlisting, List.foldl_append]⟩
    -- what the second part learns is about other types
    have hold : List.Forall₂ (Declared.Shows p pkg s₂.known) shown new := by
      refine List.Forall₂.imp ?_ ((List.forall₂_and_left _ _).mpr ⟨fun d hd => hsub.subset hd, hshows⟩)
      intro d f ⟨hd, hf⟩
      refine hf.mono h₂.packages fun n hn => h₂.kept n ?_
      have hmem : n ∈ typesOf pkg ds := (List.Sublist.filterMap _ (List.singleton_sublist.mpr hd)).subset hn
      exact fun hn' => hapart n hmem n hn' rfl
    exact List.rel_append hold hshows'
  · exact h₂.packages.trans h₁.packages
  · intro n hn
    rw [typesOf_append, List.mem_append, not_or] at hn
    exact (h₂.kept n hn.2).trans (h₁.kept n hn.1)

/-- Parts of a scan that only learn something about types that come after them. -/
theorem of_known (h : Collects p pkg ds s₁ s') (hlisting : s₁.listing = s.listing)
    (hpackages : s₁.known.packages = s.known.packages)
    (hkept : ∀ n ∉ typesOf pkg ds, typeElement p s₁.known n = typeElement p s.known n) :
    Collects p pkg ds s s' where
  added := hlisting ▸ h.added
  packages := h.packages.trans hpackages
  kept n hn := (h.kept n hn).trans (hkept n hn)

theorem each {α : Type} {f : α → ScanStep Unit} {g : α → List Declared}
    (hf : ∀ {a s s'}, (typesOf pkg (g a)).Nodup → (f a).run s = (.ok (), s') → Collects p pkg (g a) s s')
    {as : List α} (hdistinct : (typesOf pkg (as.flatMap g)).Nodup)
    (h : (Scan.each f as).run s = (.ok (), s')) : Collects p pkg (as.flatMap g) s s' := by
  refine ScanStep.run_each (R := fun as s s' => (typesOf pkg (as.flatMap g)).Nodup →
    Collects p pkg (as.flatMap g) s s') (fun s _ => refl s) ?_ h hdistinct
  intro a as s s₁ s₂ ha has hdistinct
  rw [List.flatMap_cons] at hdistinct ⊢
  have hboth := hdistinct
  rw [typesOf_append] at hboth
  obtain ⟨hfirst, hrest, -⟩ := List.nodup_append.mp hboth
  exact (hf hfirst ha).trans hdistinct (has hrest)

/-- Parts that only add members. -/
theorem each_of_members {α : Type} {f : α → ScanStep Unit} {g : α → List Declared}
    (hg : ∀ a, typesOf pkg (g a) = [])
    (hf : ∀ {a s s'}, (f a).run s = (.ok (), s') → Collects p pkg (g a) s s') {as : List α}
    (h : (Scan.each f as).run s = (.ok (), s')) : Collects p pkg (as.flatMap g) s s' := by
  apply each (fun _ => hf) ?_ h
  rw [typesOf_flatMap hg]
  exact List.nodup_nil

theorem add {d : Declared} {e : SourceElement} {type : Option TypeName} (hd : d.Shows p pkg s.known ⟨e, type⟩)
    (h : (Scan.add e type).run s = (.ok (), s')) : Collects p pkg [d] s s' := by
  obtain ⟨-, rfl⟩ | ⟨-, rfl⟩ := ScanStep.run_add h
  · exact ⟨⟨[], [], List.nil_sublist _, .nil, rfl⟩, rfl, fun _ _ => rfl⟩
  · exact ⟨⟨[d], [⟨e, type⟩], .refl _, .cons hd .nil, rfl⟩, rfl, fun _ _ => rfl⟩

end Collects

section
variable {file : File} {s s' : Scan}

theorem member_collects {enclosing : SourceElement} {doc : Option CommentGroup} {id : Ident}
    (h : (Scan.member p { package := pkg, file } enclosing doc id).run s = (.ok (), s')) :
    Collects p pkg [.member file id] s s' := by
  have hafter : Collects p pkg [.member file id] _ s' :=
    Collects.add ⟨enclosing, _, rfl⟩ (ScanStep.run_member h).2
  exact hafter.of_known rfl rfl fun _ _ => rfl

theorem names_collect {enclosing : SourceElement} {doc : Option CommentGroup} {ids : List Ident}
    (h : (Scan.each (Scan.member p { package := pkg, file } enclosing doc) ids).run s = (.ok (), s')) :
    Collects p pkg (ids.map (.member file)) s s' := by
  rw [List.map_eq_flatMap]
  exact Collects.each_of_members (fun _ => rfl) member_collects h

theorem field_collects {n : TypeName} {f : Field}
    (h : (Scan.field p { package := pkg, file } n f).run s = (.ok (), s')) :
    Collects p pkg ((Scan.fieldIdents f).map (.member file)) s s' := by
  rw [List.map_eq_flatMap]
  refine (Collects.each_of_members (fun _ => rfl) ?_ (ScanStep.run_field h).2).of_known rfl rfl fun _ _ => rfl
  intro id s s' hid
  obtain ⟨k, rfl, hadd⟩ := ScanStep.run_addField hid
  -- the field that becomes known is none of the things that an element of the type shows
  refine (Collects.add (d := .member file id) ⟨_, _, rfl⟩ hadd).of_known rfl rfl fun m _ => ?_
  apply typeElement_of_info
  · rfl
  all_goals
    rw [Known.type_updateType]
    by_cases hm : m = n <;> simp [hm]

theorem item_collects {n : TypeName} {i : InterfaceItem}
    (h : (Scan.item p { package := pkg, file } n i).run s = (.ok (), s')) :
    Collects p pkg (declaredItem file i) s s' := by
  obtain ⟨doc, name, sig, rfl, hmember⟩ | ⟨terms, rfl, rfl⟩ := ScanStep.run_item h
  · exact member_collects hmember
  · exact .refl _

theorem typesOf_members (file : File) (ids : List Ident) : typesOf pkg (ids.map (.member file)) = [] := by
  rw [List.map_eq_flatMap]
  exact typesOf_flatMap (fun _ => rfl) ids

theorem typesOf_declaredItem (file : File) (i : InterfaceItem) : typesOf pkg (declaredItem file i) = [] := by
  cases i <;> rfl

theorem typesOf_declaredMembers (file : File) (e : TypeExpr) : typesOf pkg (declaredMembers file e) = [] := by
  unfold declaredMembers
  split
  · exact typesOf_flatMap (fun f => typesOf_members file (Scan.fieldIdents f)) _
  · exact typesOf_flatMap (typesOf_declaredItem file) _
  · rfl

theorem members_collect {n : TypeName} {e : TypeExpr}
    (h : (Scan.members p { package := pkg, file } n e).run s = (.ok (), s')) :
    Collects p pkg (declaredMembers file e) s s' := by
  unfold Scan.members at h
  split at h
  · exact Collects.each_of_members (fun f => typesOf_members file (Scan.fieldIdents f)) field_collects h
  · exact Collects.each_of_members (typesOf_declaredItem file) item_collects h
  · rename_i hstruct hinterface
    obtain ⟨-, rfl⟩ := Prod.mk.inj h
    rw [declaredMembers.eq_3 file e hstruct hinterface]
    exact .refl s

theorem typesOf_declaredBy_type (file : File) (spec : TypeSpec) :
    typesOf pkg (declaredBy file (.type spec)) = [typeNameIn pkg file spec.name] := by
  rw [declaredBy, typesOf_append, typesOf_declaredMembers]
  rfl

theorem type_collects {spec : TypeSpec} (h : (Scan.type p { package := pkg, file } spec).run s = (.ok (), s')) :
    Collects p pkg (declaredBy file (.type spec)) s s' := by
  obtain ⟨-, -, s₁, hmembers, hadd⟩ := ScanStep.run_type h
  have htypes := @typesOf_declaredBy_type pkg file spec
  have hafter := Collects.trans (by rw [← declaredBy, htypes]; simp)
    (members_collect hmembers) (Collects.add (d := .type file spec.name) rfl hadd)
  -- before its members, something becomes known of the type itself
  refine hafter.of_known rfl rfl fun m hm => ?_
  have hne : m ≠ typeNameIn pkg file spec.name := fun heq => hm (htypes ▸ heq ▸ List.mem_singleton_self _)
  apply typeElement_of_info
  · rfl
  all_goals rw [Scan.type_typeKnown, if_neg hne]

theorem decl_collects {d : Source.Decl} (h : (Scan.decl p { package := pkg, file } d).run s = (.ok (), s')) :
    Collects p pkg (declaredBy file d) s s' := by
  rw [Scan.decl, ScanStep.run_get_bind] at h
  cases d with
  | type spec => exact type_collects h
  | const spec | var spec => exact names_collect h
  | func spec => exact member_collects h

theorem file_collects (hdistinct : (typesOf pkg (file.decls.flatMap (declaredBy file))).Nodup)
    (h : (Scan.file p pkg file).run s = (.ok (), s')) :
    Collects p pkg (file.decls.flatMap (declaredBy file)) s s' := by
  have hcollects := Collects.each (fun _ => decl_collects) hdistinct (ScanStep.run_file h).1
  exact hcollects.of_known rfl rfl fun _ _ => rfl

theorem packageDoc_listing (h : (Scan.packageDoc p pkg file).run s = (.ok (), s')) : s'.listing = s.listing := by
  obtain ⟨-, pos, rfl⟩ := ScanStep.run_packageDoc h
  rfl

/-- A scan reads the comments on the package first. From then on it adds what is declared. -/
theorem package_collects (hdistinct : (typesOf pkg (declaredIn pkg)).Nodup)
    (h : (Scan.package p pkg).run s = (.ok (), s')) :
    ∃ s₁, s₁.listing = s.listing ∧ Collects p pkg (declaredIn pkg) s₁ s' := by
  obtain ⟨s₁, s₂, hdocs, hadd, hfiles⟩ := ScanStep.run_package h
  have hlisting : s₁.listing = s.listing :=
    ScanStep.run_each (R := fun _ s s' => s'.listing = s.listing) (fun _ => rfl)
      (fun hf hrest => hrest.trans (packageDoc_listing hf)) hdocs
  have hpackage : Collects p pkg [.package] s₁ s₂ := Collects.add rfl hadd
  have hall := hpackage.trans hdistinct (Collects.each file_collects hdistinct hfiles)
  exact ⟨s₁, hlisting, hall⟩

end

theorem typesOf_declaredIn (pkg : Package) :
    typesOf pkg (declaredIn pkg) = pkg.types.map DeclaredType.typeName := by
  have hpackage : typesOf pkg (declaredIn pkg) =
      pkg.files.flatMap fun f => f.decls.flatMap fun d => typesOf pkg (declaredBy f d) := by
    simp only [typesOf, declaredIn, List.filterMap_cons, List.filterMap_flatMap]
  rw [hpackage, Package.types, List.map_flatMap]
  congr 1
  funext f
  induction f.decls with
  | nil => rfl
  | cons d decls ih =>
    rw [List.flatMap_cons, ih]
    cases d with
    | type spec =>
      rw [typesOf_declaredBy_type]
      rfl
    | const spec | var spec =>
      rw [declaredBy, typesOf_members]
      rfl
    | func spec => rfl

theorem kindOf_ne_package (n : TypeName) : kindOf p n ≠ .package := by
  unfold kindOf
  split
  · exact nofun
  · split <;> exact nofun

/-- Only the package is shown as one. -/
theorem Declared.Shows.eq_package {known : Known} {d : Declared} {f : Found} (h : d.Shows p pkg known f)
    (hkind : f.element.decl.kind = .ok .package) : d = .package := by
  cases d with
  | package => rfl
  | type file id =>
    obtain rfl := h
    exact absurd (Except.ok.inj hkind) (kindOf_ne_package _)
  | member file id =>
    obtain ⟨enclosing, annots, rfl⟩ := h
    cases hkind

end

theorem kind_ne_package_of_shows {p : Program} {pkg : Package} {known : Known} {shown : List Declared}
    {fs : List Found} (h : List.Forall₂ (Declared.Shows p pkg known) shown fs) (hnot : .package ∉ shown) :
    ∀ f ∈ fs, f.element.decl.kind ≠ .ok .package := by
  induction h with
  | nil => simp
  | cons hf _ ih =>
    rw [List.mem_cons, not_or] at hnot
    rw [List.forall_mem_cons]
    constructor
    · intro hkind
      exact hnot.1 (hf.eq_package hkind).symm
    · exact ih hnot.2

theorem package_notMem_declaredMembers (file : File) (e : TypeExpr) : .package ∉ declaredMembers file e := by
  unfold declaredMembers
  split
  · simp
  · rw [List.mem_flatMap]
    rintro ⟨_ | _, -, hmem⟩ <;> simp [declaredItem] at hmem
  · simp

/-- The package is declared once, before all others. -/
theorem package_notMem_declared (pkg : Package) :
    .package ∉ pkg.files.flatMap fun f => f.decls.flatMap (declaredBy f) := by
  simp only [List.mem_flatMap, not_exists, not_and]
  intro f _ d _
  cases d with
  | type spec => simp [declaredBy, package_notMem_declaredMembers]
  | _ => simp [declaredBy]

/-- In the listing of a scan, the elements with annotations of a type are exactly those among all elements that have
one, in the same order. The elements show different declarations, in the order in which these are written and with all
that is known of them in the end, the package before all others. -/
theorem lookup_in_listing {p : Program} {pkg : Package} {known known' : Known} {l : Listing}
    (hdistinct : (pkg.types.map DeclaredType.typeName).Nodup) (hscan : scanListing p pkg known = (.ok l, known')) :
    (scan p pkg known = (.ok l.elements, known') ∧ l = .of l.elements) ∧
      (∀ type, l.annotatedWith type = l.elements.filter (·.element.isAnnotatedWith type)) ∧
      (∃ shown, shown.Sublist (declaredIn pkg) ∧ List.Forall₂ (Declared.Shows p pkg known') shown l.elements) ∧
      ∀ f ∈ l.elements.tail, f.element.decl.kind ≠ .ok .package := by
  have hscan' : scan p pkg known = (.ok l.elements, known') := by
    rw [scan, hscan]
    rfl
  unfold scanListing at hscan
  split at hscan
  · rename_i s hs
    obtain ⟨rfl, rfl⟩ : s.listing = l ∧ s.known = known' := by simpa using hscan
    rw [← typesOf_declaredIn] at hdistinct
    obtain ⟨s₁, hstart, hcollects⟩ := package_collects hdistinct hs
    obtain ⟨shown, new, hsub, hshows, hlisting⟩ := hcollects.added
    rw [hstart] at hlisting
    have hof : s.listing = .of new := hlisting
    have helements : s.listing.elements = new := by
      rw [hof, Listing.of, Listing.elements_foldl_add]
      rfl
    refine ⟨⟨hscan', by rw [helements, hof]⟩, ?_, ⟨shown, hsub, helements ▸ hshows⟩, ?_⟩
    · intro type
      rw [helements, hof, Listing.annotatedWith_of]
    · rw [helements]
      cases hshows with
      | nil => simp
      | cons _ hrest =>
        apply kind_ne_package_of_shows hrest
        intro hpackage
        exact package_notMem_declared pkg (hsub.tail.subset hpackage)
  · cases hscan

/-- A file with the same annotation twice on a type, and once on two of its fields. -/
def twiceSource : Bytes := Bytes.ofString
  "// @One\npackage pet\n\n// @Two\n// @Two\ntype Cat struct \x7b\n\t// @Two\n\ta, b int\n\x7d\n"

def namesOf (fs : List Found) : List Bytes := fs.map (·.element.decl.simpleName)

theorem lookup_in_listing_twice :
    ∃ f l known, ((petPackage f).types.map DeclaredType.typeName).Nodup ∧
      scanListing (petProgram f) (petPackage f) {} = (.ok l, known) ∧
      namesOf l.elements = ["pet", "a", "b", "Cat"].map Bytes.ofString ∧
      namesOf (l.annotatedWith "pet.Two") = ["a", "b", "Cat"].map Bytes.ofString ∧
      (∀ type, l.annotatedWith type = l.elements.filter (·.element.isAnnotatedWith type)) ∧
      ∀ f ∈ l.elements.tail, f.element.decl.kind ≠ .ok .package := by
  have hread : (File.read? petPath twiceSource).any (fun f =>
      decide ((petPackage f).types.map DeclaredType.typeName).Nodup &&
        (scanListing (petProgram f) (petPackage f) {}).1.toOption.any fun l =>
          namesOf l.elements = ["pet", "a", "b", "Cat"].map Bytes.ofString ∧
            namesOf (l.annotatedWith "pet.Two") = ["a", "b", "Cat"].map Bytes.ofString) = true := by
    decide +kernel
  obtain ⟨f, -, hf⟩ := (Option.any_eq_true _ _).mp hread
  obtain ⟨hdistinct, hlisted⟩ := Bool.and_eq_true_iff.mp hf
  rcases hscan : scanListing (petProgram f) (petPackage f) {} with ⟨_ | l, known⟩
  · rw [hscan] at hlisted
    cases hlisted
  · rw [hscan] at hlisted
    obtain ⟨helements, hfound⟩ := of_decide_eq_true hlisted
    have hdistinct := of_decide_eq_true hdistinct
    obtain ⟨-, hlookup, -, hpackage⟩ := lookup_in_listing hdistinct hscan
    exact ⟨f, l, known, hdistinct, hscan, helements, hfound, hlookup, hpackage⟩

end ServiceAnnotations.Elements
