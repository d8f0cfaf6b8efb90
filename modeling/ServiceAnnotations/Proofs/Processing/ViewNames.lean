import ServiceAnnotations.Proofs.Processing.Portions
import ServiceAnnotations.Proofs.Text.FirstLetter

/-! # The names of read-only views

A view is left out if one of its names is taken in the package outside the generated file. The views of one run are
not compared with each other. Their names are different all the same, unless the name of one type is that of another
with `New` before it. -/
namespace ServiceAnnotations.Processing
open Companion Elements Registry Source ServiceAnnotations.Types

/-- What is done about the fields of a view, given the names of the getters before: nothing for a blank field, one
warning if there is a getter of that name before, and else one getter. -/
inductive GetsFields (writer : Writer) (p : Program) (view : String) : List String → List FieldInfo → Portion → Prop
  | nil (seen : List String) : GetsFields writer p view seen [] {}
  | blank {seen : List String} {i : FieldInfo} {rest : List FieldInfo} {x : Portion} (hblank : i.name = "_")
    (later : GetsFields writer p view seen rest x) : GetsFields writer p view seen (i :: rest) x
  | same {seen : List String} {i : FieldInfo} {rest : List FieldInfo} {x : Portion} (hname : i.name ≠ "_")
    (hseen : capitalized i.name ∈ seen) (later : GetsFields writer p view seen rest x) :
    GetsFields writer p view seen (i :: rest) ({ reports := [⟨.warning, i.pos, sameGetterText view i⟩] } ++ x)
  | made {seen : List String} {i : FieldInfo} {rest : List FieldInfo} {x : Portion} (hname : i.name ≠ "_")
    (hnew : capitalized i.name ∉ seen) {s : Shape} (hs : writer.type? p i.scope i.type = some s)
    (later : GetsFields writer p view (capitalized i.name :: seen) rest x) :
    GetsFields writer p view seen (i :: rest) ({ decls := [.getter view i.name (capitalized i.name) s] } ++ x)

theorem generateGetters_adds {writer : Writer} {p : Program} {file : GeneratedFile} (view : String) (infos : List FieldInfo)
    (seen : List String) :
    Generate.Adds file (generateGetters writer p view seen infos) (GetsFields writer p view seen infos) := by
  induction infos generalizing seen with
  | nil =>
    refine Generate.Adds.pure.imp ?_
    rintro _ rfl
    exact .nil seen
  | cons i infos ih =>
    rw [generateGetters]
    split
    · rename_i hblank
      exact (ih seen).imp fun _ hx => .blank hblank hx
    · rename_i hname
      dsimp only
      split
      · rename_i hseen
        refine ((Generate.Adds.report _ _ _).bind (ih seen)).imp ?_
        rintro _ ⟨_, x, rfl, hx, rfl⟩
        exact .same hname (List.contains_iff_mem.mp hseen) hx
      · rename_i hnew
        cases hshape : writer.type? p i.scope i.type with
        | none => exact .throw
        | some s =>
          refine ((Generate.Adds.add _).bind (ih _)).imp ?_
          rintro _ ⟨_, x, rfl, hx, rfl⟩
          exact .made hname (fun hmem => hnew (List.contains_iff_mem.mpr hmem)) hshape hx

/-- A name with a capital first letter is not that of the field of a view. -/
theorem capitalized_ne_field (name : String) : capitalized name ≠ "v" := by
  obtain ⟨c, rest, hglyphs⟩ := Text.exists_glyphs_upperFirst name
  intro h
  have hchars := congrArg String.toList h
  rw [capitalized, Text.Utf8.toText, hglyphs, String.toList_ofList] at hchars
  have hc : Text.toUpper c = 'v' := (List.cons.inj hchars).1
  exact Text.not_isSmall_toUpper c (by rw [hc]; decide)

/-- The getters of a view have different names, none of them among those before and none that of its field. -/
theorem GetsFields.exists_names {writer : Writer} {p : Program} {view : String} {seen : List String} {infos : List FieldInfo}
    {x : Portion} (h : GetsFields writer p view seen infos x) :
    ∃ names : List String, x.decls.map method? = names.map (fun name => some (view, name)) ∧
      (∀ d ∈ x.decls, packageName? d = none) ∧ names.Nodup ∧ ∀ name ∈ names, name ∉ seen ∧ name ≠ "v" := by
  induction h with
  | nil => exact ⟨[], rfl, by simp, .nil, by simp⟩
  | blank _ _ ih => exact ih
  | same _ _ _ ih => exact ih
  | @made seen i rest x _ hnew s _ _ ih =>
    obtain ⟨names, hmethods, hnone, hnodup, hnames⟩ := ih
    refine ⟨capitalized i.name :: names, ?_, ?_, ?_, ?_⟩
    · exact congrArg (List.cons _) hmethods
    · exact List.forall_mem_cons.mpr ⟨rfl, hnone⟩
    · exact List.nodup_cons.mpr ⟨fun hmem => (hnames _ hmem).1 List.mem_cons_self, hnodup⟩
    · refine List.forall_mem_cons.mpr ⟨⟨hnew, capitalized_ne_field i.name⟩, fun name hname => ?_⟩
      exact ⟨fun hseen => (hnames name hname).1 (List.mem_cons_of_mem _ hseen), (hnames name hname).2⟩

/-- The declarations of a view apart from its getters. -/
def viewDecls (t : Target) : List Declaration :=
  [.viewType (viewName t) t.type.name, .viewConstructor (viewName t) t.type.name]

def viewNames (t : Target) : List String := [viewName t, "New" ++ viewName t]

/-- What is done about an element whose view is asked for: one error if it is no struct type, one warning if it has
parameters, one error if a name of the view is declared in the package outside the generated file, and else the view
with its getters, whose names are not declared outside the file. -/
inductive ViewsType (writer : Writer) (p : Program) (known : Known) (file : GeneratedFile) (f : Found) : Portion → Prop
  | noStruct (hnone : target? p known f = none) :
    ViewsType writer p known file f
      { reports := [⟨.error, f.element.pos.getD {}, "@autoserv.Immutable can only be used on struct types"⟩] }
  | generic {t : Target} (ht : target? p known f = some t) (hgeneric : t.isGeneric = true) :
    ViewsType writer p known file f
      { reports := [⟨.warning, t.pos, Bytes.ofString
        ("cannot generate " ++ viewName t ++ ": generic types are not supported")⟩] }
  | taken {t : Target} (ht : target? p known f = some t) (hgeneric : t.isGeneric = false) {o : Object}
    (ho : o ∈ objectsOf file.package.files) (hname : o.name ∈ viewNames t)
    (helsewhere : Files.Path.base o.place.file ≠ Bytes.ofString file.name) :
    ViewsType writer p known file f
      { reports := [⟨.error, t.pos, Bytes.ofString
        ("cannot generate " ++ o.name ++ ": the name is already declared")⟩] }
  | viewed {t : Target} (ht : target? p known f = some t) (hgeneric : t.isGeneric = false)
    (hfree : ∀ o ∈ objectsOf file.package.files, o.name ∈ viewNames t →
      Files.Path.base o.place.file = Bytes.ofString file.name) {x : Portion}
    (hx : GetsFields writer p (viewName t) [] t.fields x) : ViewsType writer p known file f ({ decls := viewDecls t } ++ x)

section
variable {writer : Writer} {p : Program} {known : Known} {file : GeneratedFile}
  (hunique : ((objectsOf file.package.files).map Object.name).Nodup)
include hunique

theorem generateView_adds {f : Found} {t : Target} (ht : target? p known f = some t) :
    Generate.Adds file (generateView writer p t) (ViewsType writer p known file f) := by
  unfold generateView
  dsimp only
  split
  · rename_i hgeneric
    refine (Generate.Adds.report _ _ _).imp ?_
    rintro _ rfl
    exact .generic ht hgeneric
  · rename_i hgeneric
    rw [Bool.not_eq_true] at hgeneric
    refine .get_bind fun w hw => ?_
    rw [hw.isTaken]
    split
    · rename_i name hfind
      obtain ⟨o, ho, rfl, helsewhere⟩ := (isTaken_iff hunique name).mp (List.find?_some hfind)
      refine (Generate.Adds.report _ _ _).imp ?_
      rintro _ rfl
      exact .taken ht hgeneric ho (List.mem_of_find?_eq_some hfind) helsewhere
    · rename_i hfind
      have hfree : ∀ o ∈ objectsOf file.package.files, o.name ∈ viewNames t →
          Files.Path.base o.place.file = Bytes.ofString file.name := by
        intro o ho hname
        have hnot := List.find?_eq_none.mp hfind o.name hname
        rw [isTaken_iff hunique] at hnot
        exact Decidable.byContradiction fun helsewhere => hnot ⟨o, ho, rfl, helsewhere⟩
      refine ((Generate.Adds.add _).bind ((Generate.Adds.add _).bind
        ((generateGetters_adds _ t.fields []).bind (.generated t.pos)))).imp ?_
      rintro _ ⟨_, _, rfl, ⟨_, _, rfl, ⟨x, _, hx, rfl, rfl⟩, rfl⟩, rfl⟩
      rw [Portion.append_nil]
      exact .viewed ht hgeneric hfree hx

theorem generateImmutable_adds (f : Found) :
    Generate.Adds file (generateImmutable .generate writer p known f) (ViewsType writer p known file f) := by
  refine adds_of_target (fun h => ⟨by rw [generateImmutable, h], .noStruct h⟩) fun t h => ?_
  rw [generateImmutable, h]
  exact generateView_adds hunique h

end

/-- The names of two types, of which one is that of the other with `New` before it, or both are blank. -/
def NamedAlike (t u : Target) : Prop :=
  t.type.name = "New" ++ u.type.name ∨ u.type.name = "New" ++ t.type.name ∨ t.type.name = "_" ∧ u.type.name = "_"

theorem viewNames_nodup (t : Target) : (viewNames t).Nodup := by
  have hne : viewName t ≠ "New" ++ viewName t := by
    intro h
    have hlength := congrArg String.length h
    simp [String.length_append] at hlength
  simp [viewNames, hne]

/-- A name of two views. -/
theorem eq_or_new_of_mem_viewNames {t u : Target} {name : String} (ht : name ∈ viewNames t) (hu : name ∈ viewNames u) :
    t.type.name = u.type.name ∨ t.type.name = "New" ++ u.type.name ∨ u.type.name = "New" ++ t.type.name := by
  simp only [viewNames, viewName, List.mem_cons, List.not_mem_nil, or_false, ← String.append_assoc] at ht hu
  rcases ht with rfl | rfl
  · rcases hu with hu | hu
    · exact .inl ((String.append_left_inj _).mp hu)
    · exact .inr (.inl ((String.append_left_inj _).mp hu))
  · rcases hu with hu | hu
    · exact .inr (.inr ((String.append_left_inj _).mp hu).symm)
    · exact .inl ((String.append_right_inj _).mp ((String.append_left_inj _).mp hu))

def OfTypesAlike (p : Program) (known : Known) (found : List Found) (d e : Declaration) : Prop :=
  ∃ f ∈ annotatedWith found "Immutable", ∃ g ∈ annotatedWith found "Immutable", ∃ t u,
    target? p known f = some t ∧ target? p known g = some u ∧ d ∈ viewDecls t ∧ e ∈ viewDecls u ∧ NamedAlike t u

/-- Two declarations have the same name in the package only if they belong to views of types whose names are alike, and
they are methods of the same name on the same view only if the name of its type is blank. -/
structure ClashAsViews (p : Program) (known : Known) (found : List Found) (d e : Declaration) : Prop where
  names : ∀ name, packageName? d = some name → packageName? e = some name → OfTypesAlike p known found d e
  methods : ∀ m, method? d = some m → method? e = some m → m.1 = "_" ++ "Immutable"

/-- A declaration of a view is one of its two names or a getter, which does not have the name of the field. -/
def IsOfView (t : Target) (d : Declaration) : Prop :=
  (d ∈ viewDecls t ∧ method? d = none ∧ ∃ name ∈ viewNames t, packageName? d = some name) ∨
    (packageName? d = none ∧ ∃ name, method? d = some (viewName t, name) ∧ name ≠ "v")

theorem names_of_mem_viewDecls {t : Target} {d : Declaration} (hd : d ∈ viewDecls t) :
    method? d = none ∧ ∃ name ∈ viewNames t, packageName? d = some name := by
  simp only [viewDecls, List.mem_cons, List.not_mem_nil, or_false] at hd
  rcases hd with rfl | rfl
  · exact ⟨rfl, _, List.mem_cons_self, rfl⟩
  · exact ⟨rfl, _, List.mem_cons_of_mem _ List.mem_cons_self, rfl⟩

section
variable {writer : Writer} {p : Program} {known : Known} {file : GeneratedFile} {found : List Found} {f g : Found} {x y : Portion}
  {d e : Declaration}

theorem GetsFields.isOfView {t : Target} {seen : List String} {infos : List FieldInfo}
    (h : GetsFields writer p (viewName t) seen infos x) (hd : d ∈ x.decls) : IsOfView t d := by
  obtain ⟨names, hmethods, hnone, -, hnames⟩ := h.exists_names
  have hmem : method? d ∈ x.decls.map method? := List.mem_map_of_mem hd
  rw [hmethods] at hmem
  obtain ⟨name, hname, heq⟩ := List.mem_map.mp hmem
  exact .inr ⟨hnone d hd, name, heq.symm, (hnames name hname).2⟩

theorem ViewsType.exists_of_mem (h : ViewsType writer p known file f x) (hd : d ∈ x.decls) :
    ∃ t, target? p known f = some t ∧ IsOfView t d := by
  cases h with
  | noStruct | generic | taken => cases hd
  | viewed ht _ _ hx =>
    rcases List.mem_append.mp hd with hd | hd
    · exact ⟨_, ht, .inl ⟨hd, names_of_mem_viewDecls hd⟩⟩
    · exact ⟨_, ht, hx.isOfView hd⟩

/-- The declarations of one view have different names, and so do its getters. -/
theorem ViewsType.pairwise (h : ViewsType writer p known file f x) : x.decls.Pairwise (ClashAsViews p known found) := by
  cases h with
  | noStruct | generic | taken => exact .nil
  | @viewed t _ _ _ x hx =>
    obtain ⟨names, hmethods, hnone, hnodup, -⟩ := hx.exists_names
    have hgetters : x.decls.Pairwise fun d e => method? d ≠ method? e := by
      rw [← List.pairwise_map, hmethods]
      exact List.pairwise_map.mpr (hnodup.imp fun hne heq => hne (Prod.mk.inj (Option.some.inj heq)).2)
    have hview : (viewDecls t).Pairwise (ClashAsViews p known found) := by
      refine List.pairwise_pair.mpr ⟨fun name hname hname' => ?_, nofun⟩
      have hne := (List.nodup_cons.mp (viewNames_nodup t)).1
      obtain rfl := Option.some.inj hname
      exact absurd (List.mem_singleton.mpr (Option.some.inj hname').symm) hne
    refine List.pairwise_append.mpr ⟨hview, hgetters.imp_of_mem fun hd _ hne => ⟨?_, ?_⟩, fun d hd e he => ⟨?_, ?_⟩⟩
    · exact fun name hname => by cases (hnone _ hd).symm.trans hname
    · exact fun m hm hm' => absurd (hm.trans hm'.symm) hne
    · exact fun name _ hname => by cases (hnone e he).symm.trans hname
    · exact fun m hm => by cases (names_of_mem_viewDecls hd).1.symm.trans hm

/-- Declarations of different views have the same name only if the names of the types are alike. -/
theorem ViewsType.across {pkg : Package} {known' : Known} (hscan : scan p pkg known' = (.ok found, known))
    (hf : f ∈ annotatedWith found "Immutable") (hg : g ∈ annotatedWith found "Immutable") (hfg : TypesApart f g)
    (hx : ViewsType writer p known file f x) (hy : ViewsType writer p known file g y) (hd : d ∈ x.decls) (he : e ∈ y.decls) :
    ClashAsViews p known found d e := by
  obtain ⟨t, ht, hdt⟩ := hx.exists_of_mem hd
  obtain ⟨u, hu, heu⟩ := hy.exists_of_mem he
  -- types of the same name are the same, unless the name is blank
  have hblank : t.type.name = u.type.name → t.type.name = "_" := fun hsame =>
    Decidable.byContradiction fun hne =>
      hfg.name_ne hscan (mem_of_mem_annotatedWith hf) (mem_of_mem_annotatedWith hg) ht hu hne hsame
  rcases hdt with ⟨hd, hmethod, n, hn, hname⟩ | ⟨hname, n, hmethod, -⟩
  · refine ⟨fun name hname₁ hname₂ => ?_, fun m hm => by cases hmethod.symm.trans hm⟩
    obtain rfl := Option.some.inj (hname.symm.trans hname₁)
    rcases heu with ⟨he, -, n', hn', hname'⟩ | ⟨hname', -⟩
    · obtain rfl := Option.some.inj (hname'.symm.trans hname₂)
      refine ⟨f, hf, g, hg, t, u, ht, hu, hd, he, ?_⟩
      rcases eq_or_new_of_mem_viewNames hn hn' with hsame | hnew | hnew
      · exact .inr (.inr ⟨hblank hsame, hsame ▸ hblank hsame⟩)
      · exact .inl hnew
      · exact .inr (.inl hnew)
    · cases hname'.symm.trans hname₂
  · refine ⟨fun name hname₁ => (by cases hname.symm.trans hname₁), fun m hm hm' => ?_⟩
    obtain rfl := Option.some.inj (hmethod.symm.trans hm)
    rcases heu with ⟨-, hmethod', -⟩ | ⟨-, n', hmethod', -⟩
    · cases hmethod'.symm.trans hm'
    · obtain ⟨hview, -⟩ := Prod.mk.inj (Option.some.inj (hmethod'.symm.trans hm'))
      have hsame : t.type.name = u.type.name := (String.append_left_inj "Immutable").mp hview.symm
      change t.type.name ++ "Immutable" = _
      rw [hblank hsame]

end

/-- In one run no two declarations have the same name in the package, unless the name of one type is that of another
with `New` before it, or two types are blank; then both are there. None of the names is declared outside the generated
file. The getters of a view have different names, none of them that of its field. Each element without a view has one
error or warning, and nothing else is reported but fields without a getter. The run breaks down only at a field whose
type cannot be written. -/
theorem views_apart_unless_alike {σ : Type} {env : Environment} {pkg : Package}
    (hobjects : ((objectsOf pkg.files).map Object.name).Nodup)
    (htypes : (pkg.types.map DeclaredType.typeName).Nodup) {known known' : Known} {found : List Found}
    (hscan : scan env.program pkg known = (.ok found, known')) :
    (Processor.immutable .generate : Processor σ).Makes env pkg found known'
      (fun w => Answered (ViewsType env.writer env.program known' (.new pkg "immutable.autoserv.go"))
          (annotatedWith found "Immutable") w.portion ∧
        w.file.decls.Pairwise (ClashAsViews env.program known' found) ∧
        ∀ d ∈ w.file.decls, ∀ m, method? d = some m → m.2 ≠ "v")
      (BreaksDown env.writer env.program known' found "Immutable") := by
  refine makes_of_adds (fun _ => rfl) (fun f _ => generateImmutable_adds hobjects f)
    (ends_annotatedWith stays_viewsFields (generateImmutable_generate_ends env.writer env.program known')) fun w hanswered => ?_
  refine ⟨?_, fun d hd m hm => ?_⟩
  · exact hanswered.pairwise (annotatedWith_pairwise htypes hscan "Immutable") (fun _ _ _ hx => hx.pairwise)
      fun f hf g hg hfg x y hx hy d hd e he => hx.across hscan hf hg hfg hy hd he
  · obtain ⟨f, -, x, hx, hd⟩ := hanswered.exists_of_mem hd
    obtain ⟨t, -, ⟨-, hmethod, -⟩ | ⟨-, name, hmethod, hname⟩⟩ := hx.exists_of_mem hd
    · cases hmethod.symm.trans hm
    · obtain rfl := Option.some.inj (hmethod.symm.trans hm)
      exact hname

namespace Prefixes

/-- Two structs, of which one has the name of the other with `New` before it. -/
def file : Source.File :=
  (Source.File.read? (Bytes.ofString "p/p.go") (Bytes.ofString
    ("package p\n\n// @autoserv.Immutable\ntype Foo struct\x7b x, X int \x7d\n\n" ++
      "// @autoserv.Immutable\ntype NewFoo struct\x7b\x7d\n"))).get (by decide +kernel)

def pkg : Package := { id := "p", path := "p", name := "p", dir := Bytes.ofString "p", files := [file] }

theorem nodup_pkg :
    ((objectsOf pkg.files).map Object.name).Nodup ∧ (pkg.types.map DeclaredType.typeName).Nodup := by
  decide +kernel

/-- Whether the constructor of one view has the name of the other view, and `x` and `X` have one getter. -/
def HasClash (run : List Found × Known × Work) : Prop :=
  (annotatedWith run.1 "Immutable").map Found.type = [some (.member "p" "Foo"), some (.member "p" "NewFoo")] ∧
    run.2.2.file.decls.filterMap packageName? =
      ["FooImmutable", "NewFooImmutable", "NewFooImmutable", "NewNewFooImmutable"] ∧
    run.2.2.file.decls.filterMap method? = [("FooImmutable", "X")]

instance : DecidablePred HasClash := fun _ => inferInstanceAs (Decidable (_ ∧ _))

theorem hasClash_soleRun :
    (soleRun "Immutable" "immutable.autoserv.go" (generateImmutable .generate .standard) pkg).any (decide <| HasClash ·) =
      true := by
  decide +kernel

end Prefixes

open Prefixes in
theorem views_apart_unless_alike_prefixes :
    ∃ found known, ∃ w : Work, scan (environmentOf pkg).program pkg {} = (.ok found, known) ∧
      (annotatedWith found "Immutable").map Found.type = [some (.member "p" "Foo"), some (.member "p" "NewFoo")] ∧
      Answered (ViewsType (environmentOf pkg).writer (environmentOf pkg).program known (.new pkg "immutable.autoserv.go"))
        (annotatedWith found "Immutable") w.portion ∧
      w.file.decls.Pairwise (ClashAsViews (environmentOf pkg).program known found) ∧
      ∀ s : Session Unit, (Processor.immutable .generate).process (environmentOf pkg) (.package pkg found known) s =
        (.ok (), .immutable .generate, w.leave (environmentOf pkg) s) := by
  obtain ⟨found, known, w, hscan, hrun, htypes, -⟩ := exists_of_soleRun hasClash_soleRun
  obtain ⟨w', ⟨⟨hanswered, hclash, -⟩, hprocess⟩ | ⟨-, hprocess⟩⟩ :=
    views_apart_unless_alike (σ := Unit) nodup_pkg.1 nodup_pkg.2 hscan
  · exact ⟨found, known, w', hscan, htypes, hanswered, hclash, hprocess⟩
  · have hok := process_of_run (p := (.immutable .generate : Processor Unit)) (fun _ => rfl) hrun
      { tree := {}, extra := () }
    rw [hprocess] at hok
    cases hok

open Prefixes in
/-- The constructor of one view has the name of another view if the names of their types are alike, and nothing is said
about it. -/
theorem views_clash :
    ∃ found known, ∃ w : Work, scan (environmentOf pkg).program pkg {} = (.ok found, known) ∧
      w.file.decls.filterMap packageName? =
        ["FooImmutable", "NewFooImmutable", "NewFooImmutable", "NewNewFooImmutable"] ∧
      ∀ s : Session Unit, (Processor.immutable .generate).process (environmentOf pkg) (.package pkg found known) s =
        (.ok (), .immutable .generate, w.leave (environmentOf pkg) s) := by
  obtain ⟨found, known, w, hscan, hrun, -, hnames, -⟩ := exists_of_soleRun hasClash_soleRun
  exact ⟨found, known, w, hscan, hnames, process_of_run (fun _ => rfl) hrun⟩

end ServiceAnnotations.Processing
