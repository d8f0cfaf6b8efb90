import ServiceAnnotations.Command.Packages

/-! # Which of the listed packages are loaded

A listing shows packages, the same packages with their test files, and programs that run these tests. The id of a
package tells them apart, except that a package whose path ends like the id of such a program is taken for one. -/
namespace ServiceAnnotations.Command
open Files ServiceAnnotations.Types

/-- What a package is listed as. -/
inductive Role
  | plain
  /-- A package with its test files. -/
  | variant
  /-- A program that runs the tests of a package. -/
  | testMain
  deriving DecidableEq, Repr

/-- Whether a package is listed the way packages in a role are. There are no blanks in paths. -/
def Role.Fits (role : Role) (p : ListedPackage) : Prop :=
  match role with
  | plain => p.id = p.path ∧ ' ' ∉ p.path.toList
  | variant => ∃ tested, p.id = p.path ++ " [" ++ tested ++ ".test]"
  | testMain => ∃ tested, p.id = tested ++ ".test" ∧ ' ' ∉ tested.toList

/-- Whether a package has to be processed: it is no program that runs tests, and it is not listed once more with its
test files. -/
def IsWanted (listed : List (Role × ListedPackage)) (x : Role × ListedPackage) : Prop :=
  match x.1 with
  | .plain => ∀ y ∈ listed, y.1 = .variant → y.2.path ≠ x.2.path
  | .variant => True
  | .testMain => False

instance (listed : List (Role × ListedPackage)) : DecidablePred (IsWanted listed) := fun x => by
  unfold IsWanted
  split <;> infer_instance

/-- Whether the path of a package ends like the ids of programs that run tests. -/
def ListedPackage.IsTestNamed (p : ListedPackage) : Prop := ".test".toList <:+ p.path.toList

instance : DecidablePred ListedPackage.IsTestNamed := fun p => by
  unfold ListedPackage.IsTestNamed
  infer_instance

theorem occursIn_iff {part cs : List Char} : occursIn part cs = true ↔ part <:+: cs := by
  induction cs with
  | nil => simp [occursIn]
  | cons c cs ih => rw [occursIn, Bool.or_eq_true, List.isPrefixOf_iff_prefix, ih, List.infix_cons_iff]

namespace ListedPackage
variable {p : ListedPackage}

theorem isVariant_iff : p.isVariant = true ↔ " [".toList <:+: p.id.toList := occursIn_iff

theorem isTestMain_iff : p.isTestMain = true ↔ ".test".toList <:+ p.id.toList := List.isSuffixOf_iff_suffix

theorem isVariant_eq_false (h : ' ' ∉ p.id.toList) : p.isVariant = false := by
  rw [Bool.eq_false_iff, Ne, isVariant_iff]
  intro hpart
  exact h (hpart.subset (by decide))

end ListedPackage

namespace Role.Fits
variable {p : ListedPackage}

theorem isVariant_plain (h : plain.Fits p) : p.isVariant = false := by
  apply ListedPackage.isVariant_eq_false
  rw [h.1]
  exact h.2

theorem isVariant_testMain (h : testMain.Fits p) : p.isVariant = false := by
  obtain ⟨tested, hid, hblank⟩ := h
  apply ListedPackage.isVariant_eq_false
  rw [hid, String.toList_append, List.mem_append, not_or]
  exact ⟨hblank, by decide⟩

theorem isVariant_variant (h : variant.Fits p) : p.isVariant = true := by
  obtain ⟨tested, hid⟩ := h
  rw [ListedPackage.isVariant_iff, hid]
  refine ⟨p.path.toList, tested.toList ++ ".test]".toList, ?_⟩
  simp [String.toList_append]

/-- Only packages with their test files are taken for such. -/
theorem isVariant_iff {role : Role} (h : role.Fits p) : p.isVariant = true ↔ role = variant := by
  cases role with
  | plain => simp [isVariant_plain h]
  | variant => simp [isVariant_variant h]
  | testMain => simp [isVariant_testMain h]

theorem isTestMain_plain (h : plain.Fits p) : p.isTestMain = true ↔ p.IsTestNamed := by
  rw [ListedPackage.isTestMain_iff, h.1]
  rfl

theorem isTestMain_testMain (h : testMain.Fits p) : p.isTestMain = true := by
  obtain ⟨tested, hid, -⟩ := h
  rw [ListedPackage.isTestMain_iff, hid, String.toList_append]
  exact List.suffix_append _ _

/-- An id with brackets at its end has no other end. -/
theorem isTestMain_variant (h : variant.Fits p) : p.isTestMain = false := by
  obtain ⟨tested, hid⟩ := h
  rw [Bool.eq_false_iff, Ne, ListedPackage.isTestMain_iff, hid]
  intro ⟨front, heq⟩
  have hlast := congrArg List.getLast? heq
  rw [String.toList_append, List.getLast?_append, List.getLast?_append] at hlast
  simp at hlast

end Role.Fits

section
variable {listed : List (Role × ListedPackage)} (hfits : ∀ x ∈ listed, x.1.Fits x.2)
include hfits

/-- Whether there is a variant with a path can be read off the ids. -/
theorem any_isVariant_iff (path : String) :
    ((listed.map Prod.snd).any fun p => p.isVariant && p.path = path) = true ↔
      ∃ y ∈ listed, y.1 = .variant ∧ y.2.path = path := by
  rw [List.any_map, List.any_eq_true]
  constructor
  · intro ⟨y, hy, hvariant⟩
    obtain ⟨hvariant, hpath⟩ := Bool.and_eq_true_iff.mp hvariant
    exact ⟨y, hy, (hfits y hy).isVariant_iff.mp hvariant, by simpa using hpath⟩
  · intro ⟨y, hy, hrole, hpath⟩
    refine ⟨y, hy, Bool.and_eq_true_iff.mpr ⟨?_, by simpa using hpath⟩⟩
    exact (hfits y hy).isVariant_iff.mpr hrole

/-- A package is selected if it is wanted, unless its path makes it look like a program that runs tests. -/
theorem isSelected_iff {x : Role × ListedPackage} (hx : x ∈ listed) :
    (!x.2.isTestMain && (x.2.isVariant ||
        !(listed.map Prod.snd).any fun p => p.isVariant && p.path = x.2.path)) = true ↔
      IsWanted listed x ∧ ¬ (x.1 = .plain ∧ x.2.IsTestNamed) := by
  obtain ⟨role, p⟩ := x
  have hp := hfits _ hx
  cases role with
  | plain =>
    have hnone : IsWanted listed (.plain, p) ↔ ¬ ∃ y ∈ listed, y.1 = .variant ∧ y.2.path = p.path := by
      constructor
      · intro hall ⟨y, hy, hrole, hpath⟩
        exact hall y hy hrole hpath
      · intro hnone y hy hrole hpath
        exact hnone ⟨y, hy, hrole, hpath⟩
    rw [hnone, ← any_isVariant_iff hfits, ← hp.isTestMain_plain, hp.isVariant_plain]
    simp [and_comm]
  | variant => simp [IsWanted, hp.isVariant_variant, hp.isTestMain_variant]
  | testMain => simp [IsWanted, hp.isTestMain_testMain]

theorem selected_eq (hroots : ∀ x ∈ listed, x.2.isDependency = false) :
    selected (listed.map Prod.snd) =
      (listed.filter fun x => IsWanted listed x ∧ ¬ (x.1 = .plain ∧ x.2.IsTestNamed)).map Prod.snd := by
  have hall : (listed.map Prod.snd).filter (!·.isDependency) = listed.map Prod.snd := by
    apply List.filter_eq_self.mpr
    intro p hp
    obtain ⟨x, hx, rfl⟩ := List.mem_map.mp hp
    simp [hroots x hx]
  rw [selected, hall, List.filter_map]
  congr 1
  apply List.filter_congr
  intro x hx
  rw [Bool.eq_iff_iff, decide_eq_true_iff]
  exact isSelected_iff hfits hx

end

/-- Packages without errors are loaded one by one. -/
theorem loadListed_of_sound (t : Tree) {ps : List ListedPackage} (h : ∀ p ∈ selected ps, p.errors = []) :
    loadListed t ps = .ok ((selected ps).map (·.load t)) := by
  unfold loadListed
  generalize selected ps = ps at h ⊢
  induction ps with
  | nil => rfl
  | cons p ps ih =>
    obtain ⟨hp, hps⟩ := List.forall_mem_cons.mp h
    rw [List.mapM_cons, ih hps, hp]
    rfl

/-- Of a listing without errors, exactly the packages are loaded that have to be processed, each once and in order,
apart from those that are taken for programs that run tests because of their paths. -/
theorem wanted_packages_loaded (t : Tree) {listed : List (Role × ListedPackage)}
    (hfits : ∀ x ∈ listed, x.1.Fits x.2) (hroots : ∀ x ∈ listed, x.2.isDependency = false)
    (hsound : ∀ x ∈ listed, x.2.errors = []) :
    loadListed t (listed.map Prod.snd) =
      .ok ((listed.filter fun x => IsWanted listed x ∧ ¬ (x.1 = .plain ∧ x.2.IsTestNamed)).map fun x =>
        x.2.load t) := by
  have herrors : ∀ p ∈ selected (listed.map Prod.snd), p.errors = [] := by
    rw [selected_eq hfits hroots]
    intro p hp
    obtain ⟨x, hx, rfl⟩ := List.mem_map.mp hp
    exact hsound x (List.mem_filter.mp hx).1
  rw [loadListed_of_sound t herrors, selected_eq hfits hroots, List.map_map]
  rfl

def plainPackage (path name : String) : ListedPackage := { id := path, path, name, files := [] }

def testedListing : List (Role × ListedPackage) :=
  [(.plain, plainPackage "m/p" "p"), (.variant, { plainPackage "m/p" "p" with id := "m/p [m/p.test]" }),
    (.testMain, plainPackage "m/p.test" "main"), (.plain, plainPackage "m/q" "q")]

theorem wanted_packages_loaded_tested :
    (∀ x ∈ testedListing, x.1.Fits x.2) ∧ (∀ x ∈ testedListing, x.2.isDependency = false) ∧
      (∀ x ∈ testedListing, x.2.errors = []) ∧
      (testedListing.filter fun x => IsWanted testedListing x ∧ ¬ (x.1 = .plain ∧ x.2.IsTestNamed)).map
        (·.2.id) = ["m/p [m/p.test]", "m/q"] ∧
      loadListed {} (testedListing.map Prod.snd) =
        .ok ((testedListing.filter fun x => IsWanted testedListing x ∧ ¬ (x.1 = .plain ∧ x.2.IsTestNamed)).map
          fun x => x.2.load {}) := by
  have hfits : ∀ x ∈ testedListing, x.1.Fits x.2 := by
    simp only [testedListing, List.forall_mem_cons]
    exact ⟨⟨rfl, by decide⟩, ⟨"m/p", rfl⟩, ⟨"m/p", rfl, by decide⟩, ⟨rfl, by decide⟩, nofun⟩
  have hroots : ∀ x ∈ testedListing, x.2.isDependency = false := by decide
  have hsound : ∀ x ∈ testedListing, x.2.errors = [] := by decide
  exact ⟨hfits, hroots, hsound, by decide, wanted_packages_loaded {} hfits hroots hsound⟩

/-- The only package of a listing is not loaded, because its path ends like the ids of programs that run tests. -/
theorem plain_package_left_out :
    let p := plainPackage "m/load.test" "load"
    Role.plain.Fits p ∧ p.isDependency = false ∧ p.errors = [] ∧ IsWanted [(.plain, p)] (.plain, p) ∧
      loadListed {} [p] = .ok [] := by
  intro p
  have hselected : selected [p] = [] := List.eq_nil_of_length_eq_zero (by decide)
  refine ⟨⟨rfl, by decide⟩, rfl, rfl, by decide, ?_⟩
  rw [loadListed, hselected]
  rfl

end ServiceAnnotations.Command
