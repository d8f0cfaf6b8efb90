import ServiceAnnotations.Command.Packages
import ServiceAnnotations.Proofs.Elements.Fields
import ServiceAnnotations.Proofs.Registry.Emission
import ServiceAnnotations.Proofs.Registry.Index
import ServiceAnnotations.Proofs.Registry.Nesting
import ServiceAnnotations.Proofs.Source.Readers

/-! # The types that share a service file

The name of a type in service files is its name in the source, behind the path of its package with dots in place of
slashes. Names in the source have neither dots nor slashes, so the name and the path can be told from each other; but
slashes and dots in the path cannot. -/
namespace ServiceAnnotations.Elements
open Command Files Registry Source Text ServiceAnnotations.Types

/-- A program knows a package by its id, and has read its files. -/
structure IsLoaded (p : Program) (pkg : Package) : Prop where
  known : p.package? pkg.id = some pkg
  read : ∀ f ∈ pkg.files, ∃ path content, File.read? path content = some f

theorem exists_read_of_mem {t : Tree} {names : List Bytes} {f : File}
    (h : f ∈ names.filterMap fun name => do File.read? name (← t.files.get? (t.locate name))) :
    ∃ path content, File.read? path content = some f := by
  obtain ⟨name, -, hread⟩ := List.mem_filterMap.mp h
  obtain ⟨content, -, hread⟩ := Option.bind_eq_some_iff.mp hread
  exact ⟨name, content, hread⟩

theorem package?_settle {loaded : List Package} (hids : (loaded.map Package.id).Nodup) {pkg : Package}
    (hpkg : pkg ∈ loaded) : (Program.settle { packages := loaded }).package? pkg.id = some pkg := by
  rw [Program.package?, packages_settle]
  exact find?_key_of_nodup hids hpkg

/-- The packages of a listing are loaded if their ids tell them apart. -/
theorem isLoaded_programOf (t : Tree) {listed : List ListedPackage} (hids : (listed.map ListedPackage.id).Nodup)
    {l : ListedPackage} (hl : l ∈ listed) : IsLoaded (programOf t listed) (l.load t) where
  known := by
    refine package?_settle ?_ (List.mem_map_of_mem hl)
    rwa [List.map_map]
  read _ hf := exists_read_of_mem hf

theorem packageAt?_eq_some {t : Tree} {path : String} {pkg : Package} (h : packageAt? t path = some pkg) :
    pkg.id = path ∧ pkg.path = path ∧ ∀ f ∈ pkg.files, ∃ path content, File.read? path content = some f := by
  simp only [packageAt?, packageOfFiles?] at h
  split at h
  · cases h
  · obtain rfl := Option.some.inj h
    exact ⟨rfl, rfl, fun f hf => exists_read_of_mem hf⟩

/-- Packages are loaded once for each path. -/
theorem loadPackages_apart (t : Tree) (fuel : Nat) (paths : List String) (loaded : List Package)
    (hfrom : ∀ pkg ∈ loaded, packageAt? t pkg.path = some pkg) (hids : (loaded.map Package.id).Nodup) :
    (∀ pkg ∈ loadPackages t fuel paths loaded, packageAt? t pkg.path = some pkg) ∧
      ((loadPackages t fuel paths loaded).map Package.id).Nodup := by
  induction fuel generalizing paths loaded with
  | zero => exact ⟨hfrom, hids⟩
  | succ fuel ih =>
    simp only [loadPackages]
    split
    · exact ⟨hfrom, hids⟩
    · rename_i pkg rest hnew
      obtain ⟨path, hpath, hpkg⟩ := List.mem_filterMap.mp (hnew ▸ List.mem_cons_self)
      obtain ⟨hid, hsame, -⟩ := packageAt?_eq_some hpkg
      have hunknown : ∀ other ∈ loaded, other.id ≠ pkg.id := by
        intro other hother heq
        have hisNew := (List.mem_filter.mp hpath).2
        simp only [Bool.and_eq_true, Bool.not_eq_true', List.any_eq_false, decide_eq_true_eq] at hisNew
        refine hisNew.2 other hother ?_
        rw [← (packageAt?_eq_some (hfrom other hother)).1, heq, hid]
      refine ih _ _ (List.forall_mem_append.mpr ⟨hfrom, List.forall_mem_singleton.mpr (hsame ▸ hpkg)⟩) ?_
      rw [List.map_append, List.nodup_append']
      refine ⟨hids, List.nodup_singleton _, ?_⟩
      simpa [List.disjoint_left] using hunknown

theorem packages_load (t : Tree) (paths : List String) :
    (Program.load t paths).packages = loadPackages t (t.files.size + 1) paths [] := packages_settle _

/-- The packages of a tree are loaded. -/
theorem isLoaded_load (t : Tree) (paths : List String) {pkg : Package} (hpkg : pkg ∈ (Program.load t paths).packages) :
    IsLoaded (Program.load t paths) pkg := by
  obtain ⟨hfrom, hids⟩ := loadPackages_apart t (t.files.size + 1) paths [] nofun .nil
  rw [packages_load] at hpkg
  exact ⟨package?_settle hids hpkg, (packageAt?_eq_some (hfrom pkg hpkg)).2.2⟩

/-- Characters that are the same, a dot and a slash counting as the same. -/
def DotAlike (c d : Char) : Prop := c = d ∨ c ∈ ['/', '.'] ∧ d ∈ ['/', '.']

instance (c d : Char) : Decidable (DotAlike c d) := inferInstanceAs (Decidable (_ ∨ _))

def PathsAlike (path path' : String) : Prop := path.toList.Forall₂ DotAlike path'.toList

def dotForSlash (c : Char) : Char := if c = '/' then '.' else c

theorem dotForSlash_eq_iff {c d : Char} : dotForSlash c = dotForSlash d ↔ DotAlike c d := by
  unfold dotForSlash DotAlike
  by_cases hc : c = '/' <;> by_cases hd : d = '/'
  · simp [hc, hd]
  · simp [hc, hd, Ne.symm hd, eq_comm]
  · simp [hc, hd]
  · simp only [if_neg hc, if_neg hd]
    refine ⟨.inl, ?_⟩
    rintro (h | h)
    · exact h
    · simp only [List.mem_cons, hc, hd, List.not_mem_nil, false_or, or_false] at h
      rw [h.1, h.2]

theorem dotted_eq (path : String) : dotted path = Bytes.ofChars (path.toList.map dotForSlash) := by
  rw [dotted, Bytes.ofString]
  induction path.toList with
  | nil => rfl
  | cons c cs ih =>
    have hchar : (String.utf8EncodeChar c).map (fun b => if b = 0x2f then 0x2e else b) =
        String.utf8EncodeChar (dotForSlash c) := by
      by_cases hc : c = '/'
      · subst hc
        decide
      · have hno : 0x2f ∉ String.utf8EncodeChar c :=
          mt (Utf8.mem_encode_iff (c := '/') (by decide)).mp (Ne.symm hc)
        rw [dotForSlash, if_neg hc]
        refine (List.map_congr_left fun b hb => ?_).trans (List.map_id _)
        exact if_neg fun h : b = 0x2f => hno (h ▸ hb)
    rw [Bytes.ofChars_cons, List.map_append, hchar, ih, List.map_cons, Bytes.ofChars_cons]

theorem dotted_eq_iff {path path' : String} : dotted path = dotted path' ↔ PathsAlike path path' := by
  rw [dotted_eq, dotted_eq, PathsAlike]
  refine Iff.trans ⟨Utf8.ofChars_injective, congrArg _⟩ ?_
  rw [← List.forall₂_eq_eq_eq, List.forall₂_map_left_iff, List.forall₂_map_right_iff]
  simp only [dotForSlash_eq_iff]

/-- A type has a name in service files, by the references to it and as an element. -/
structure HasName (p : Program) (n : TypeName) (name : Bytes) : Prop where
  reference : (typeRef p n).binaryName = .ok name
  element : ∀ known, ∃ t, (typeElement p known n).typeRef? = some t ∧ t.binaryName = .ok name

theorem typeRef?_typeElement (p : Program) (known : Known) (n : TypeName) :
    (typeElement p known n).typeRef? = some (typeRef p n) := by
  unfold Element.typeRef? typeElement typeRef framesAround
  cases n.package <;> rfl

section
variable {p : Program} {pkg : Package} {d : DeclaredType} (hpkg : IsLoaded p pkg) (hd : d ∈ pkg.types)
include hpkg hd

theorem hasName_of_mem : HasName p d.typeName (inPackage (dotted d.package.path) (Bytes.ofString d.spec.name.name)) := by
  have houter : (typeRef p d.typeName).outer = [⟨.ok .package, dotted d.package.path, d.package.name⟩] := by
    obtain ⟨f, -, spec, -, rfl⟩ := mem_types_iff.mp hd
    simp [typeRef, framesAround, DeclaredType.typeName, typeNameIn, packageFrame, pathAndName, hpkg.known]
  have hname : (typeRef p d.typeName).binaryName =
      .ok (inPackage (dotted d.package.path) (Bytes.ofString d.spec.name.name)) := by
    rw [TypeRef.binaryName, houter]
    exact binaryNameFrom_package rfl _ rfl
  exact ⟨hname, fun known => ⟨_, typeRef?_typeElement p known d.typeName, hname⟩⟩

theorem dot_notMem_of_mem : 0x2e ∉ Bytes.ofString d.spec.name.name := by
  obtain ⟨f, hf, spec, hspec, rfl⟩ := mem_types_iff.mp hd
  obtain ⟨path, content, hread⟩ := hpkg.read f hf
  have hword := File.isWord_of_read? hread hspec
  exact mt (Utf8.mem_ofChars_iff (c := '.') (by decide)).mp (hword.notMem (by decide))

end

/-- Types with the same name in packages whose paths differ in dots and slashes only. -/
def ShareFile (d d' : DeclaredType) : Prop :=
  PathsAlike d.package.path d'.package.path ∧ d.spec.name.name = d'.spec.name.name

/-- Two declared types of loaded packages have the same name in service files, and the same file, just when they are
called the same in the source and the paths of their packages differ in dots and slashes only. Only then a provider
that is found for the one is listed for the other. -/
theorem names_of_declared_types {p : Program} {pkg pkg' : Package} (hpkg : IsLoaded p pkg) (hpkg' : IsLoaded p pkg')
    {d d' : DeclaredType} (hd : d ∈ pkg.types) (hd' : d' ∈ pkg'.types) :
    ∃ name name', HasName p d.typeName name ∧ HasName p d'.typeName name' ∧ (name = name' ↔ ShareFile d d') ∧
      (servicePath name = servicePath name' ↔ ShareFile d d') ∧
      ∀ (idx : Index) (provider q : Bytes),
        (idx.add name' provider).Lists name q ↔ ShareFile d d' ∧ q = provider ∨ idx.Lists name q := by
  have hsame : inPackage (dotted d.package.path) (Bytes.ofString d.spec.name.name) =
      inPackage (dotted d'.package.path) (Bytes.ofString d'.spec.name.name) ↔ ShareFile d d' := by
    rw [inPackage_inj (dot_notMem_of_mem hpkg hd) (dot_notMem_of_mem hpkg' hd'), dotted_eq_iff, ShareFile]
    exact and_congr_right fun _ => ⟨fun h => String.toList_inj.mp (Utf8.ofChars_injective h), congrArg _⟩
  refine ⟨_, _, hasName_of_mem hpkg hd, hasName_of_mem hpkg' hd', hsame, ?_, fun idx provider q => ?_⟩
  · exact Iff.trans ⟨servicePath_injective, congrArg _⟩ hsame
  · rw [Index.lists_add, hsame]

namespace Alike

/-- Three packages, each with an interface `S`; the paths of two differ in a dot and a slash only. -/
def tree : Tree :=
  let file (name : String) : Bytes := Bytes.ofString ("package " ++ name ++ "\n\ntype S interface\x7b\x7d\n")
  { files := .ofList [("a/b/b.go", file "b"), ("a.b/b.go", file "b"), ("a/c/c.go", file "c")] }

def program : Program := .load tree ["a/b", "a.b", "a/c"]

/-- Whether a package with a path is loaded and declares a type `S`. -/
def declares (path : String) : Bool :=
  (loadPackages tree (tree.files.size + 1) ["a/b", "a.b", "a/c"] []).any fun pkg =>
    pkg.types.any fun d => d.package.path = path && d.spec.name.name = "S"

theorem declares_of_mem : ∀ path ∈ ["a/b", "a.b", "a/c"], declares path = true := by decide +kernel

theorem exists_of_mem {path : String} (h : path ∈ ["a/b", "a.b", "a/c"]) :
    ∃ pkg, IsLoaded program pkg ∧ ∃ d ∈ pkg.types, d.package.path = path ∧ d.spec.name.name = "S" := by
  obtain ⟨pkg, hpkg, hany⟩ := List.any_eq_true.mp (declares_of_mem path h)
  obtain ⟨d, hd, hsame⟩ := List.any_eq_true.mp hany
  rw [← packages_load] at hpkg
  exact ⟨pkg, isLoaded_load tree _ hpkg, d, hd, by simpa using hsame⟩

end Alike

open Alike in
theorem names_of_declared_types_apart :
    ∃ pkg pkg' d d' name name', IsLoaded program pkg ∧ IsLoaded program pkg' ∧ d ∈ pkg.types ∧ d' ∈ pkg'.types ∧
      d.package.path = "a/b" ∧ d'.package.path = "a/c" ∧ HasName program d.typeName name ∧
      HasName program d'.typeName name' ∧ name ≠ name' ∧ servicePath name ≠ servicePath name' := by
  obtain ⟨pkg, hpkg, d, hd, hpath, -⟩ := exists_of_mem (show "a/b" ∈ _ by decide)
  obtain ⟨pkg', hpkg', d', hd', hpath', -⟩ := exists_of_mem (show "a/c" ∈ _ by decide)
  obtain ⟨name, name', hname, hname', hsame, hfile, -⟩ := names_of_declared_types hpkg hpkg' hd hd'
  have hapart : ¬ ShareFile d d' := by
    rintro ⟨hpaths, -⟩
    rw [hpath, hpath', PathsAlike] at hpaths
    revert hpaths
    decide
  exact ⟨pkg, pkg', d, d', name, name', hpkg, hpkg', hd, hd', hpath, hpath', hname, hname', mt hsame.mp hapart,
    mt hfile.mp hapart⟩

open Alike in
/-- The types `S` of two packages have the same service file, since a dot in the path of the one is a slash in the path
of the other. -/
theorem declared_types_merged :
    ∃ pkg pkg' d d' name, IsLoaded program pkg ∧ IsLoaded program pkg' ∧ d ∈ pkg.types ∧ d' ∈ pkg'.types ∧
      d.package.path = "a/b" ∧ d'.package.path = "a.b" ∧ HasName program d.typeName name ∧
      HasName program d'.typeName name ∧ servicePath name = Bytes.ofString "META-INF/services/a.b.S" := by
  obtain ⟨pkg, hpkg, d, hd, hpath, hname⟩ := exists_of_mem (show "a/b" ∈ _ by decide)
  obtain ⟨pkg', hpkg', d', hd', hpath', hname'⟩ := exists_of_mem (show "a.b" ∈ _ by decide)
  have h := hasName_of_mem hpkg hd
  have h' := hasName_of_mem hpkg' hd'
  rw [hpath, hname] at h
  have hdotted : dotted "a.b" = dotted "a/b" := by decide
  rw [hpath', hname', hdotted] at h'
  exact ⟨pkg, pkg', d, d', _, hpkg, hpkg', hd, hd', hpath, hpath', h, h', by decide⟩

end ServiceAnnotations.Elements
