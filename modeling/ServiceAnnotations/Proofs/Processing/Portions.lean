import ServiceAnnotations.Proofs.Elements.Types
import ServiceAnnotations.Proofs.Processing.Handling

/-! # What each element adds to a file

The work of a generator is put together from portions, one for each element, one after another. What goes into a
portion depends on the package and the name of the file, and not on what is in the file already. -/
namespace ServiceAnnotations.Processing
open Companion Elements Registry Source ServiceAnnotations.Types

/-- The type that a declared method belongs to, and the name of the method. -/
def method? : Declaration → Option (String × String)
  | .setter type _ name _ => some (type, name)
  | .getter view _ name _ => some (view, name)
  | _ => none

/-- The name that is declared in the package. Methods declare none. -/
def packageName? : Declaration → Option String
  | .formatFunction name _ _ => some name
  | .viewType view _ => some view
  | .viewConstructor view _ => some ("New" ++ view)
  | .setter .. | .getter .. => none

/-- A part of what a generator leaves: declarations, and what is reported. -/
structure Portion where
  decls : List Declaration := []
  reports : List Report := []

namespace Portion

instance : Append Portion where
  append x y := ⟨x.decls ++ y.decls, x.reports ++ y.reports⟩

@[simp] theorem decls_append (x y : Portion) : (x ++ y).decls = x.decls ++ y.decls := rfl
@[simp] theorem reports_append (x y : Portion) : (x ++ y).reports = x.reports ++ y.reports := rfl

@[simp] theorem nil_append (x : Portion) : ({} : Portion) ++ x = x := rfl

@[simp] theorem append_nil (x : Portion) : x ++ ({} : Portion) = x := by
  change Portion.mk (x.decls ++ []) (x.reports ++ []) = x
  rw [List.append_nil, List.append_nil]

theorem append_assoc (x y z : Portion) : x ++ y ++ z = x ++ (y ++ z) := by
  change Portion.mk (x.decls ++ y.decls ++ z.decls) (x.reports ++ y.reports ++ z.reports) = _
  rw [List.append_assoc, List.append_assoc]
  rfl

end Portion

/-- A portion that answers the items of a list, one after another. -/
inductive Answered {α : Type} (answers : α → Portion → Prop) : List α → Portion → Prop
  | nil : Answered answers [] {}
  | cons {a : α} {as : List α} {x y : Portion} (now : answers a x) (later : Answered answers as y) :
    Answered answers (a :: as) (x ++ y)

namespace Answered
variable {α : Type} {answers : α → Portion → Prop} {as : List α} {x : Portion}

theorem exists_of_mem (h : Answered answers as x) {d : Declaration} (hd : d ∈ x.decls) :
    ∃ a ∈ as, ∃ y, answers a y ∧ d ∈ y.decls := by
  induction h with
  | nil => cases hd
  | @cons a as y z now later ih =>
    rcases List.mem_append.mp hd with hd | hd
    · exact ⟨a, List.mem_cons_self, y, now, hd⟩
    · obtain ⟨b, hb, hrest⟩ := ih hd
      exact ⟨b, List.mem_cons_of_mem a hb, hrest⟩

/-- Declarations are in a relation if those of each item are, and those of an item with those of later ones. -/
theorem pairwise {R : Declaration → Declaration → Prop} {S : α → α → Prop} (h : Answered answers as x)
    (has : as.Pairwise S) (hwithin : ∀ a ∈ as, ∀ y, answers a y → y.decls.Pairwise R)
    (hacross : ∀ a ∈ as, ∀ b ∈ as, S a b → ∀ y z, answers a y → answers b z →
      ∀ d ∈ y.decls, ∀ e ∈ z.decls, R d e) : x.decls.Pairwise R := by
  induction h with
  | nil => exact .nil
  | @cons a as y z now later ih =>
    obtain ⟨ha, has⟩ := List.pairwise_cons.mp has
    obtain ⟨hwithin, hwithin'⟩ := List.forall_mem_cons.mp hwithin
    refine List.pairwise_append.mpr ⟨hwithin y now, ?_, fun d hd e he => ?_⟩
    · exact ih has hwithin' fun b hb c hc =>
        hacross b (List.mem_cons_of_mem a hb) c (List.mem_cons_of_mem a hc)
    · obtain ⟨b, hb, z', hz', he⟩ := later.exists_of_mem he
      exact hacross a List.mem_cons_self b (List.mem_cons_of_mem a hb) (ha b hb) y z' now hz' d hd e he

end Answered

/-- What has been generated so far. -/
def Work.portion (w : Work) : Portion := ⟨w.file.decls, w.reports⟩

structure Work.Adds (w : Work) (x : Portion) (w' : Work) : Prop where
  name : w'.file.name = w.file.name
  package : w'.file.package = w.file.package
  portion : w'.portion = w.portion ++ x

theorem Work.Adds.refl (w : Work) : w.Adds {} w := ⟨rfl, rfl, (Portion.append_nil _).symm⟩

theorem Work.Adds.report (w : Work) (severity : Severity) (pos : Place) (text : Bytes) :
    w.Adds { reports := [⟨severity, pos, text⟩] } (w.report severity pos text) := by
  refine ⟨rfl, rfl, ?_⟩
  change Portion.mk w.file.decls _ = ⟨w.file.decls ++ [], _⟩
  rw [List.append_nil]
  rfl

def Work.IsOn (w : Work) (file : GeneratedFile) : Prop := w.file.name = file.name ∧ w.file.package = file.package

theorem Work.IsOn.adds {w w' : Work} {file : GeneratedFile} {x : Portion} (h : w.IsOn file) (hw : w.Adds x w') :
    w'.IsOn file := ⟨hw.name.trans h.1, hw.package.trans h.2⟩

theorem Work.IsOn.isElsewhere {w : Work} {file : GeneratedFile} (h : w.IsOn file) (place : Option Place) :
    w.file.isElsewhere place = file.isElsewhere place := by
  unfold GeneratedFile.isElsewhere
  rw [h.1]

theorem Work.IsOn.isTaken {w : Work} {file : GeneratedFile} (h : w.IsOn file) : w.file.isTaken = file.isTaken := by
  funext name
  simp only [GeneratedFile.isTaken, h.isElsewhere, h.2]

namespace Generate

/-- A step on a file that adds a portion of which `good` holds, unless it breaks down. -/
def Adds (file : GeneratedFile) (x : Generate Unit) (good : Portion → Prop) : Prop :=
  ∀ w w' : Work, w.IsOn file → x.run w = (.ok (), w') → ∃ part, good part ∧ w.Adds part w'

namespace Adds
variable {file : GeneratedFile} {x y : Generate Unit} {good good' : Portion → Prop}

theorem imp (h : Adds file x good) (hgood : ∀ part, good part → good' part) : Adds file x good' := by
  intro w w' hw hrun
  obtain ⟨part, hpart, hadds⟩ := h w w' hw hrun
  exact ⟨part, hgood part hpart, hadds⟩

theorem pure : Adds file (Pure.pure ()) (· = {}) := by
  intro w w' _ hrun
  obtain ⟨-, rfl⟩ := Prod.mk.inj hrun
  exact ⟨_, rfl, .refl w⟩

theorem throw : Adds file (throw ()) good := fun _ _ _ hrun => by cases hrun

theorem report (severity : Severity) (pos : Place) (text : Bytes) :
    Adds file (Generate.report severity pos text) (· = { reports := [⟨severity, pos, text⟩] }) := by
  intro w w' _ hrun
  obtain ⟨-, rfl⟩ := Prod.mk.inj hrun
  exact ⟨_, rfl, .report w severity pos text⟩

theorem add (d : Declaration) : Adds file (Generate.add d) (· = { decls := [d] }) := by
  intro w w' _ hrun
  obtain ⟨-, rfl⟩ := Prod.mk.inj hrun
  refine ⟨_, rfl, rfl, rfl, ?_⟩
  change Portion.mk _ w.reports = ⟨_, w.reports ++ []⟩
  rw [List.append_nil]
  rfl

theorem generated (pos : Place) : Adds file (modify (·.generated pos)) (· = {}) := by
  intro w w' _ hrun
  obtain ⟨-, rfl⟩ := Prod.mk.inj hrun
  exact ⟨_, rfl, rfl, rfl, (Portion.append_nil _).symm⟩

theorem bind (hx : Adds file x good) (hy : Adds file y good') :
    Adds file (x >>= fun _ => y) (fun part => ∃ a b, good a ∧ good' b ∧ part = a ++ b) := by
  intro w w' hw hrun
  rw [run_bind] at hrun
  rcases hx' : x.run w with ⟨_ | _, w₁⟩ <;> rw [hx'] at hrun
  · cases hrun
  · obtain ⟨a, ha, hadds⟩ := hx w w₁ hw hx'
    obtain ⟨b, hb, hadds'⟩ := hy w₁ w' (hw.adds hadds) hrun
    refine ⟨a ++ b, ⟨a, b, ha, hb, rfl⟩, hadds'.name.trans hadds.name, hadds'.package.trans hadds.package, ?_⟩
    rw [hadds'.portion, hadds.portion, Portion.append_assoc]

theorem get_bind {k : Work → Generate Unit} (hk : ∀ w : Work, w.IsOn file → Adds file (k w) good) :
    Adds file (get >>= k) good := fun w w' hw hrun => hk w hw w w' hw hrun

/-- Steps over a list add a portion for each item. -/
theorem each {α : Type} {f : α → Generate Unit} {answers : α → Portion → Prop} {as : List α}
    (hf : ∀ a ∈ as, Adds file (f a) (answers a)) : Adds file (Generate.each f as) (Answered answers as) := by
  induction as with
  | nil =>
    refine pure.imp ?_
    rintro _ rfl
    exact .nil
  | cons a as ih =>
    obtain ⟨hfirst, hrest⟩ := List.forall_mem_cons.mp hf
    refine (hfirst.bind (ih hrest)).imp ?_
    rintro _ ⟨x, y, hx, hy, rfl⟩
    exact .cons hx hy

end Adds

end Generate

/-- A step that is about the struct type of an element adds what it adds for that type. Without a struct type it just
reports. -/
theorem adds_of_target {p : Program} {known : Known} {f : Found} {file : GeneratedFile} {severity : Severity}
    {pos : Place} {text : Bytes} {x : Generate Unit} {good : Portion → Prop}
    (hnone : target? p known f = none →
      x = Generate.report severity pos text ∧ good { reports := [⟨severity, pos, text⟩] })
    (hsome : ∀ t, target? p known f = some t → Generate.Adds file x good) : Generate.Adds file x good := by
  cases htarget : target? p known f with
  | none =>
    obtain ⟨rfl, hgood⟩ := hnone htarget
    refine (Generate.Adds.report _ _ _).imp ?_
    rintro _ rfl
    exact hgood
  | some t => exact hsome t htarget

/-- A processor that runs a generator answers the elements with its annotation, unless the generator breaks down. -/
theorem makes_of_adds {σ : Type} {env : Environment} {p : Processor σ} {annot suffix : String}
    {generate : Program → Known → Found → Generate Unit} {pkg : Package} {found : List Found} {known : Known}
    {answers : Found → Portion → Prop} {good good' : Work → Prop} {bad : Prop}
    (hp : ∀ s, p.process env (.package pkg found known) s =
      ((runGenerator env annot suffix generate pkg found known s).1, p,
        (runGenerator env annot suffix generate pkg found known s).2))
    (hadds : ∀ f ∈ annotatedWith found annot,
      Generate.Adds (.new pkg suffix) (generate env.program known f) (answers f))
    (hends : Generate.Ends (Generate.each (generate env.program known) (annotatedWith found annot)) good' bad)
    (hgood : ∀ w : Work, Answered answers (annotatedWith found annot) w.portion → good w) :
    p.Makes env pkg found known
      (fun w => Answered answers (annotatedWith found annot) w.portion ∧ good w) bad := by
  refine makes_of_run hp (fun w hrun => ?_) fun _ hrun => hends.error_of_run hrun
  obtain ⟨part, hpart, hwork⟩ := Generate.Adds.each hadds { file := .new pkg suffix } w ⟨rfl, rfl⟩ hrun
  have hanswered : Answered answers (annotatedWith found annot) w.portion := by rwa [hwork.portion]
  exact ⟨hanswered, hgood w hanswered⟩

def TypesApart (f g : Found) : Prop := ∀ n, f.type = some n → g.type ≠ some n

theorem pairwise_typesApart {found : List Found} (h : (found.filterMap Found.type).Nodup) :
    found.Pairwise TypesApart := by
  refine (List.pairwise_filterMap.mp h).imp fun {f g} hne n hf hg => ?_
  exact hne n hf n hg rfl

section
variable {p : Program} {pkg : Package} {known known' : Known} {found : List Found}
  (hdistinct : (pkg.types.map DeclaredType.typeName).Nodup) (hscan : scan p pkg known = (.ok found, known'))
include hdistinct hscan

/-- Different elements with an annotation declare different types. -/
theorem annotatedWith_pairwise (annot : String) : (annotatedWith found annot).Pairwise TypesApart := by
  have hsub : ((pkg.types.filter fun d => !d.spec.isAlias).map DeclaredType.typeName).Sublist
      (pkg.types.map DeclaredType.typeName) := List.filter_sublist.map _
  rw [annotatedWith_eq]
  exact (pairwise_typesApart (((scan_findsTypes hscan).trans hsub).nodup hdistinct)).filter _

omit hdistinct in
/-- The type that an element declares has a declaration of its own. -/
theorem exists_declared_of_mem {f : Found} (hf : f ∈ found) {n : TypeName} (hn : f.type = some n) :
    ∃ d ∈ pkg.types, d.spec.isAlias = false ∧ d.typeName = n := by
  have hmem := (scan_findsTypes hscan).subset (List.mem_filterMap.mpr ⟨f, hf, hn⟩)
  obtain ⟨d, hd, rfl⟩ := List.mem_map.mp hmem
  obtain ⟨hd, halias⟩ := List.mem_filter.mp hd
  exact ⟨d, hd, by simpa using halias, rfl⟩

end

/-- The struct type of an element is the type that it declares. -/
theorem type_of_target? {p : Program} {known : Known} {f : Found} {t : Target} (h : target? p known f = some t) :
    f.type = some t.type ∧ (body p p.fuel (p.typeOf t.type)).isStruct := by
  rw [target?_eq] at h
  obtain ⟨n, hn, hif⟩ := Option.bind_eq_some_iff.mp h
  obtain ⟨hstruct, ht⟩ := Option.ite_none_right_eq_some.mp hif
  obtain rfl := Option.some.inj ht
  exact ⟨hn, hstruct⟩

/-- Types of a package with the same name are the same, unless the name is blank. -/
theorem typeName_eq_of_name_eq {pkg : Package} {d e : DeclaredType} (hd : d ∈ pkg.types) (he : e ∈ pkg.types)
    (hname : d.typeName.name = e.typeName.name) (hblank : d.typeName.name ≠ "_") : d.typeName = e.typeName := by
  obtain ⟨f, -, spec, -, rfl⟩ := mem_types_iff.mp hd
  obtain ⟨g, -, spec', -, rfl⟩ := mem_types_iff.mp he
  have hname' : spec.name.name = spec'.name.name := hname
  have hblank' : spec.name.name ≠ "_" := hblank
  simp only [DeclaredType.typeName, typeNameIn, hname', if_neg (hname' ▸ hblank')]

/-- Elements with different types have struct types of different names, unless both names are blank. -/
theorem TypesApart.name_ne {p : Program} {pkg : Package} {known known' known'' : Known} {found : List Found}
    (hscan : scan p pkg known = (.ok found, known')) {f g : Found} (h : TypesApart f g) (hf : f ∈ found)
    (hg : g ∈ found) {t u : Target} (ht : target? p known'' f = some t) (hu : target? p known'' g = some u)
    (hblank : t.type.name ≠ "_") : t.type.name ≠ u.type.name := by
  intro hname
  have hf' := (type_of_target? ht).1
  have hg' := (type_of_target? hu).1
  obtain ⟨d, hd, -, hdt⟩ := exists_declared_of_mem hscan hf hf'
  obtain ⟨e, he, -, hec⟩ := exists_declared_of_mem hscan hg hg'
  have hsame : d.typeName = e.typeName :=
    typeName_eq_of_name_eq hd he (by rw [hdt, hec, hname]) (by rwa [hdt])
  exact h t.type hf' (by rw [hg', ← hec, ← hsame, hdt])

/-- An environment with nothing but a package. -/
def environmentOf (pkg : Package) : Environment where
  options := ∅
  outputDir := Files.Path.here
  sources := .tree
  program := .settle { packages := [pkg] }

theorem package?_environmentOf (pkg : Package) : (environmentOf pkg).program.package? pkg.id = some pkg := by
  have hpackages : (environmentOf pkg).program.packages = [pkg] := packages_settle _
  rw [Program.package?, hpackages]
  simp

/-- What is found in a package on its own, what is known then, and the work of a generator, if nothing goes wrong. -/
def soleRun (annot suffix : String) (generate : Program → Known → Found → Generate Unit) (pkg : Package) :
    Option (List Found × Known × Work) :=
  match scan (environmentOf pkg).program pkg {} with
  | (.error _, _) => none
  | (.ok found, known) =>
    match generatorRun (environmentOf pkg) annot suffix generate pkg found known with
    | (.error (), _) => none
    | (.ok (), w) => some (found, known, w)

theorem exists_of_soleRun {annot suffix : String} {generate : Program → Known → Found → Generate Unit} {pkg : Package}
    {q : List Found × Known × Work → Prop} [DecidablePred q]
    (h : (soleRun annot suffix generate pkg).any (decide <| q ·) = true) :
    ∃ found known w, scan (environmentOf pkg).program pkg {} = (.ok found, known) ∧
      generatorRun (environmentOf pkg) annot suffix generate pkg found known = (.ok (), w) ∧ q (found, known, w) := by
  obtain ⟨⟨found, known, w⟩, hsome, hq⟩ := (Option.any_eq_true _ _).mp h
  unfold soleRun at hsome
  split at hsome
  · cases hsome
  · split at hsome
    · cases hsome
    · obtain ⟨rfl, rfl, rfl⟩ : _ = found ∧ _ = known ∧ _ = w := by simpa using hsome
      exact ⟨_, _, _, by assumption, by assumption, of_decide_eq_true hq⟩

end ServiceAnnotations.Processing
