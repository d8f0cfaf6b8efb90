import ServiceAnnotations.Proofs.Processing.Portions

/-! # The names of setters

A setter is left out if its name is taken by a field or method outside the generated file. The setters of one run are
not compared with each other. They have different names all the same, unless two fields of a type differ in the case
of the first letter only. -/
namespace ServiceAnnotations.Processing
open Companion Elements Registry Source ServiceAnnotations.Types

/-- What is done about a field whose setter is asked for, on a file: nothing for a blank field, one warning if the name
of the setter is taken outside the file, and else one setter, whose name no field or method of the type has outside
the file. -/
inductive SetsField (writer : Writer) (p : Program) (file : GeneratedFile) (t : Target) (i : FieldInfo) : Portion → Prop
  | blank (hblank : i.name = "_") : SetsField writer p file t i {}
  | taken (hname : i.name ≠ "_") {m : Member}
    (hm : lookup p p.fuel (.pointer (p.typeOf t.type)) false (.of file.package.path (setterName i)) = some m)
    (helsewhere : file.isElsewhere m.place = true) :
    SetsField writer p file t i { reports := [⟨.warning, i.pos, takenText t.type.name (setterName i)⟩] }
  | made (hname : i.name ≠ "_") {s : Shape} (hs : writer.type? p i.scope i.type = some s)
    (hfree : ∀ m ∈ ownMembers p p.fuel t.type, m.id = .of file.package.path (setterName i) →
      file.isElsewhere m.place = false) :
    SetsField writer p file t i { decls := [.setter t.type.name i.name (setterName i) s] }

/-- What is done about an element whose setters are asked for: one error if it is no struct type, one warning if it has
parameters, and else what is done about each of the fields. -/
inductive SetsType (writer : Writer) (p : Program) (known : Known) (file : GeneratedFile) (f : Found) : Portion → Prop
  | noStruct (hnone : target? p known f = none) :
    SetsType writer p known file f
      { reports := [⟨.error, f.element.pos.getD {}, "@autoserv.Setter can only be used on struct types"⟩] }
  | generic {t : Target} (ht : target? p known f = some t) (hgeneric : t.isGeneric = true) :
    SetsType writer p known file f
      { reports := [⟨.warning, t.pos, Bytes.ofString
        ("cannot generate setters for " ++ t.type.name ++ ": generic types are not supported")⟩] }
  | fields {t : Target} (ht : target? p known f = some t) (hgeneric : t.isGeneric = false) {x : Portion}
    (hx : Answered (SetsField writer p file t) t.fields x) : SetsType writer p known file f x

theorem setterName_ne_blank (i : FieldInfo) : setterName i ≠ "_" := by
  intro h
  have hchars := congrArg String.toList h
  simp [setterName] at hchars

theorem capitalized_eq_of_setterName_eq {i j : FieldInfo} (h : setterName i = setterName j) :
    capitalized i.name = capitalized j.name := by
  have hchars := congrArg String.toList h
  simp only [setterName, String.toList_append, List.append_cancel_left_eq] at hchars
  exact String.toList_inj.mp hchars

/-- Whether the members that a struct type has by itself are what lookup finds of their names. -/
def Target.FindsOwn (p : Program) (t : Target) : Prop :=
  ∀ m ∈ ownMembers p p.fuel t.type, m.id.name ≠ "_" →
    lookup p p.fuel (.pointer (p.typeOf t.type)) false m.id = some m

theorem generateSetter_adds {writer : Writer} {p : Program} {file : GeneratedFile} {t : Target} (hown : t.FindsOwn p) (i : FieldInfo) :
    Generate.Adds file (generateSetter writer p t i) (SetsField writer p file t i) := by
  unfold generateSetter
  split
  · rename_i hblank
    refine Generate.Adds.pure.imp ?_
    rintro _ rfl
    exact .blank hblank
  · rename_i hname
    refine .get_bind fun w hw => ?_
    simp only [hw.2]
    split
    · rename_i hany
      obtain ⟨m, hm, helsewhere⟩ := (Option.any_eq_true _ _).mp hany
      refine (Generate.Adds.report _ _ _).imp ?_
      rintro _ rfl
      exact .taken hname hm (hw.isElsewhere _ ▸ helsewhere)
    · rename_i hany
      have hfree : ∀ m ∈ ownMembers p p.fuel t.type, m.id = .of file.package.path (setterName i) →
          file.isElsewhere m.place = false := by
        intro m hm hid
        have hfound := hown m hm (by rw [hid]; exact setterName_ne_blank i)
        rw [hid] at hfound
        rw [← hw.isElsewhere, ← Bool.not_eq_true]
        exact fun helsewhere => hany ((Option.any_eq_true _ _).mpr ⟨m, hfound, helsewhere⟩)
      cases hshape : writer.type? p i.scope i.type with
      | none => exact .throw
      | some s =>
        refine ((Generate.Adds.add _).bind (.generated t.pos)).imp ?_
        rintro _ ⟨_, _, rfl, rfl, rfl⟩
        exact .made hname hshape hfree

theorem generateSetters_adds {writer : Writer} {p : Program} {known : Known} {file : GeneratedFile} {f : Found}
    (hown : ∀ t, target? p known f = some t → t.FindsOwn p) :
    Generate.Adds file (generateSetters writer p known f) (SetsType writer p known file f) := by
  refine adds_of_target (fun h => ⟨by rw [generateSetters, h], .noStruct h⟩) fun t h => ?_
  rw [generateSetters, h]
  dsimp only
  split
  · rename_i hgeneric
    refine (Generate.Adds.report _ _ _).imp ?_
    rintro _ rfl
    exact .generic h hgeneric
  · rename_i hgeneric
    exact (Generate.Adds.each fun i _ => generateSetter_adds (hown t h) i).imp fun _ hx =>
      .fields h (Bool.not_eq_true _ ▸ hgeneric) hx

/-- Two setters are for two fields of one type, whose names are the same with a capital first letter. -/
def Twins (p : Program) (known : Known) (found : List Found) (d e : Declaration) : Prop :=
  ∃ f ∈ annotatedWith found "Setter", ∃ t, target? p known f = some t ∧ ∃ i j, [i, j].Sublist t.fields ∧
    i.name ≠ "_" ∧ j.name ≠ "_" ∧ capitalized i.name = capitalized j.name ∧
    (∃ s, d = .setter t.type.name i.name (setterName i) s) ∧ ∃ s, e = .setter t.type.name j.name (setterName j) s

/-- Setters of the same name on types of the same name are twins, unless the name of the types is blank. -/
def ClashAsTwins (p : Program) (known : Known) (found : List Found) (d e : Declaration) : Prop :=
  ∀ type name, method? d = some (type, name) → method? e = some (type, name) → type ≠ "_" → Twins p known found d e

section
variable {writer : Writer} {p : Program} {known : Known} {file : GeneratedFile} {t : Target} {i : FieldInfo} {x : Portion}
  {d e : Declaration}

theorem SetsField.exists_of_mem (h : SetsField writer p file t i x) (hd : d ∈ x.decls) :
    i.name ≠ "_" ∧ ∃ s, d = .setter t.type.name i.name (setterName i) s := by
  cases h with
  | blank | taken => cases hd
  | made hname => exact ⟨hname, _, List.mem_singleton.mp hd⟩

theorem SetsField.pairwise (h : SetsField writer p file t i x) (R : Declaration → Declaration → Prop) :
    x.decls.Pairwise R := by
  cases h with
  | blank | taken => exact .nil
  | made => exact List.pairwise_singleton _ _

theorem SetsType.exists_of_mem {f : Found} (h : SetsType writer p known file f x) (hd : d ∈ x.decls) :
    ∃ t, target? p known f = some t ∧ ∃ i ∈ t.fields, i.name ≠ "_" ∧
      ∃ s, d = .setter t.type.name i.name (setterName i) s := by
  cases h with
  | noStruct | generic => cases hd
  | fields ht _ hx =>
    obtain ⟨i, hi, y, hy, hd⟩ := hx.exists_of_mem hd
    exact ⟨_, ht, i, hi, hy.exists_of_mem hd⟩

/-- Two setters of one type have the same name only if they are twins. -/
theorem SetsType.pairwise {found : List Found} {f : Found} (hf : f ∈ annotatedWith found "Setter")
    (h : SetsType writer p known file f x) : x.decls.Pairwise (ClashAsTwins p known found) := by
  cases h with
  | noStruct | generic => exact .nil
  | @fields t ht _ _ hx =>
    have hsub : t.fields.Pairwise fun i j => [i, j].Sublist t.fields := List.pairwise_iff_forall_sublist.mpr id
    refine hx.pairwise hsub (fun i _ y hy => hy.pairwise _) fun i _ j _ hij y z hy hz d hd e he => ?_
    obtain ⟨hi, s, rfl⟩ := hy.exists_of_mem hd
    obtain ⟨hj, s', rfl⟩ := hz.exists_of_mem he
    intro type name hmethod hmethod' _
    obtain ⟨-, rfl⟩ := Prod.mk.inj (Option.some.inj hmethod)
    obtain ⟨-, hname⟩ := Prod.mk.inj (Option.some.inj hmethod')
    exact ⟨f, hf, t, ht, i, j, hij, hi, hj, capitalized_eq_of_setterName_eq hname.symm, ⟨s, rfl⟩, s', rfl⟩

/-- Setters for different elements belong to types of different names. -/
theorem SetsType.across {pkg : Package} {known' : Known} {found : List Found} {f g : Found} {y : Portion}
    (hscan : scan p pkg known' = (.ok found, known)) (hf : f ∈ found) (hg : g ∈ found) (hfg : TypesApart f g)
    (hx : SetsType writer p known file f x) (hy : SetsType writer p known file g y) (hd : d ∈ x.decls) (he : e ∈ y.decls) :
    ClashAsTwins p known found d e := by
  obtain ⟨t, ht, i, -, -, s, rfl⟩ := hx.exists_of_mem hd
  obtain ⟨u, hu, j, -, -, s', rfl⟩ := hy.exists_of_mem he
  intro type name hmethod hmethod' hblank
  obtain ⟨rfl, -⟩ := Prod.mk.inj (Option.some.inj hmethod)
  obtain ⟨hname, -⟩ := Prod.mk.inj (Option.some.inj hmethod')
  exact absurd hname.symm (hfg.name_ne hscan hf hg ht hu hblank)

end

/-- The types of a package are told apart by their names, and the members of each type by theirs, aliases and blank
members left out. -/
structure MembersApart (p : Program) (pkg : Package) : Prop where
  types : (pkg.types.map DeclaredType.typeName).Nodup
  members : ∀ d ∈ pkg.types, d.spec.isAlias = false →
    (((ownMembers p p.fuel d.typeName).filter fun m => m.id.name ≠ "_").map Member.id).Nodup

section
variable {writer : Writer} {p : Program} {pkg : Package} {known known' : Known} {found : List Found}
  (hpkg : p.package? pkg.id = some pkg) (hid : pkg.id ≠ "unsafe") (hapart : MembersApart p pkg)
  (hscan : scan p pkg known = (.ok found, known'))
include hpkg hid hapart hscan

theorem findsOwn_of_mem {f : Found} (hf : f ∈ found) {t : Target} (ht : target? p known' f = some t) :
    t.FindsOwn p := by
  obtain ⟨htype, hstruct⟩ := type_of_target? ht
  obtain ⟨d, hd, halias, hdt⟩ := exists_declared_of_mem hscan hf htype
  have htypeOf := typeOf_typeName hpkg hapart.types hid hd halias
  rw [hdt] at htypeOf
  rw [htypeOf] at hstruct
  intro m hm hname
  rw [htypeOf]
  have hmembers := hapart.members d hd halias
  rw [hdt] at hmembers
  refine lookup_of_own (Body.eq_struct_of_isStruct hstruct) hname ?_
  exact find?_key_of_nodup_filter hmembers hm fun b hb => by simpa [hb] using hname

end

/-- In one run no two setters have the same name on the same type, unless they are for fields that differ in the case
of the first letter only; then both are there. No setter has the name of a field or method that its type has outside
the generated file. Each field without a setter has one warning, blank fields apart, a type with parameters has one
for all its fields, and an element that is no struct type has one error. The run breaks down only at a field whose type
cannot be written. -/
theorem setters_apart_unless_twins {σ : Type} {env : Environment} {pkg : Package}
    (hpkg : env.program.package? pkg.id = some pkg) (hid : pkg.id ≠ "unsafe") (hapart : MembersApart env.program pkg)
    {known known' : Known} {found : List Found} (hscan : scan env.program pkg known = (.ok found, known')) :
    (Processor.setters : Processor σ).Makes env pkg found known'
      (fun w => Answered (SetsType env.writer env.program known' (.new pkg "setters.autoserv.go")) (annotatedWith found "Setter")
          w.portion ∧
        w.file.decls.Pairwise (ClashAsTwins env.program known' found))
      (BreaksDown env.writer env.program known' found "Setter") := by
  have hmem : ∀ f ∈ annotatedWith found "Setter", f ∈ found := fun f hf => mem_of_mem_annotatedWith hf
  refine makes_of_adds (fun _ => rfl) (fun f hf => generateSetters_adds fun t ht =>
      findsOwn_of_mem hpkg hid hapart hscan (hmem f hf) ht)
    (ends_annotatedWith stays_setsFields (generateSetters_ends env.writer env.program known')) fun w hanswered => ?_
  exact hanswered.pairwise (annotatedWith_pairwise hapart.types hscan "Setter") (fun f hf x hx => hx.pairwise hf)
    fun f hf g hg hfg x y hx hy d hd e he => hx.across hscan (hmem f hf) (hmem g hg) hfg hy hd he

namespace Letters

/-- A struct with two fields that differ in the case of the first letter, and one with the name of a setter. -/
def file : Source.File :=
  (Source.File.read? (Bytes.ofString "p/p.go") (Bytes.ofString
    "package p\n\n// @autoserv.Setter\ntype T struct\x7b x, X, y, _ int; SetY bool \x7d\n")).get (by decide +kernel)

def pkg : Package := { id := "p", path := "p", name := "p", dir := Bytes.ofString "p", files := [file] }

theorem membersApart_pkg : MembersApart (environmentOf pkg).program pkg := by
  have hboth : (pkg.types.map DeclaredType.typeName).Nodup ∧ ∀ d ∈ pkg.types, d.spec.isAlias = false →
      (((ownMembers (environmentOf pkg).program (environmentOf pkg).program.fuel d.typeName).filter
        fun m => m.id.name ≠ "_").map Member.id).Nodup := by decide +kernel
  exact ⟨hboth.1, hboth.2⟩

/-- Whether the setters of the first two fields have the same name, and the one of `y` is left out. -/
def HasClash (run : List Found × Known × Work) : Prop :=
  (annotatedWith run.1 "Setter").map Found.type = [some (.member "p" "T")] ∧
    run.2.2.file.decls.filterMap method? = [("T", "SetX"), ("T", "SetX"), ("T", "SetSetY")] ∧
    run.2.2.reports.map Report.text = [takenText "T" "SetY"]

instance : DecidablePred HasClash := fun _ => inferInstanceAs (Decidable (_ ∧ _))

theorem hasClash_soleRun :
    (soleRun "Setter" "setters.autoserv.go" (generateSetters .standard) pkg).any (decide <| HasClash ·) = true := by
  decide +kernel

end Letters

open Letters in
theorem setters_apart_unless_twins_letters :
    ∃ found known, ∃ w : Work, scan (environmentOf pkg).program pkg {} = (.ok found, known) ∧
      (annotatedWith found "Setter").map Found.type = [some (.member "p" "T")] ∧
      Answered (SetsType (environmentOf pkg).writer (environmentOf pkg).program known (.new pkg "setters.autoserv.go"))
        (annotatedWith found "Setter") w.portion ∧
      w.file.decls.Pairwise (ClashAsTwins (environmentOf pkg).program known found) ∧
      ∀ s : Session Unit, Processor.setters.process (environmentOf pkg) (.package pkg found known) s =
        (.ok (), .setters, w.leave (environmentOf pkg) s) := by
  obtain ⟨found, known, w, hscan, hrun, htypes, -⟩ := exists_of_soleRun hasClash_soleRun
  obtain ⟨w', ⟨⟨hanswered, hclash⟩, hprocess⟩ | ⟨-, hprocess⟩⟩ :=
    setters_apart_unless_twins (σ := Unit) (package?_environmentOf pkg) (by decide) membersApart_pkg hscan
  · exact ⟨found, known, w', hscan, htypes, hanswered, hclash, hprocess⟩
  · have hok := process_of_run (p := (.setters : Processor Unit)) (fun _ => rfl) hrun { tree := {}, extra := () }
    rw [hprocess] at hok
    cases hok

open Letters in
/-- Fields that differ in the case of the first letter both have a setter, of the same name, and nothing is said about
it. -/
theorem setters_clash :
    ∃ found known, ∃ w : Work, scan (environmentOf pkg).program pkg {} = (.ok found, known) ∧
      w.file.decls.filterMap method? = [("T", "SetX"), ("T", "SetX"), ("T", "SetSetY")] ∧
      w.reports.map Report.text = [takenText "T" "SetY"] ∧
      ∀ s : Session Unit, Processor.setters.process (environmentOf pkg) (.package pkg found known) s =
        (.ok (), .setters, w.leave (environmentOf pkg) s) := by
  obtain ⟨found, known, w, hscan, hrun, -, hmethods, hreports⟩ := exists_of_soleRun hasClash_soleRun
  exact ⟨found, known, w, hscan, hmethods, hreports, process_of_run (fun _ => rfl) hrun⟩

end ServiceAnnotations.Processing
