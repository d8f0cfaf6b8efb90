import ServiceAnnotations.Proofs.Companion.Standard
import ServiceAnnotations.Proofs.Processing.Portions

/-! # The formatting functions of a package

A formatting function shows the fields that are named by an annotation, in the order of their declaration. Blank ones
among them leave nothing behind but a warning. -/
namespace ServiceAnnotations.Processing
open Companion Elements Registry Source Text ServiceAnnotations.Types

def isNamed (i : FieldInfo) : Bool := (findAnnot i.annots (moduleAnnot "Name")).isSome

/-- The fields that a formatting function shows. -/
def shownOf (fields : List FieldInfo) : List String :=
  (fields.filter fun i => isNamed i && i.name ≠ "_").map FieldInfo.name

/-- One warning for each blank field that is to be shown. -/
def blankWarningsOf (function : String) (fields : List FieldInfo) : List Report :=
  (fields.filter fun i => isNamed i && i.name = "_").map fun i =>
    ⟨.warning, i.pos, Bytes.ofString ("blank fields cannot be read, so they are left out of " ++ function)⟩

namespace Target

/-- The name of the formatting function of a type. -/
def formatName (t : Target) : String := "Format" ++ t.type.name

def shown (t : Target) : List String := shownOf t.fields

/-- The function that shows the fields with separators between them. -/
def formatFunction (t : Target) : FormatFunction := ⟨t.formatName, t.type.name, formatSteps t.type.name t.shown⟩

def blankWarnings (t : Target) : List Report := blankWarningsOf t.formatName t.fields

/-- The names of a type and its fields are words. -/
structure IsSpelled (t : Target) : Prop where
  type : IsWord t.type.name.toList
  fields : ∀ i ∈ t.fields, IsWord i.name.toList

end Target

/-- What is done about an element whose formatting function is asked for. -/
inductive FormatsType (p : Program) (known : Known) (file : GeneratedFile) (f : Found) : Portion → Prop
  | passedOver (hother : ∀ n, f.type = some n → kindOf p n ≠ .concrete) : FormatsType p known file f {}
  | noStruct {n : TypeName} (hn : f.type = some n) (hkind : kindOf p n = .concrete)
    (hnone : target? p known f = none) :
    FormatsType p known file f
      { reports := [⟨.error, (known.type n).pos, "@autoserv.ToString can only be used on struct types"⟩] }
  | generic {t : Target} (ht : target? p known f = some t) (hgeneric : t.isGeneric = true) :
    FormatsType p known file f
      { reports := [⟨.warning, t.pos, Bytes.ofString
        ("cannot generate " ++ t.formatName ++ ": generic types are not supported")⟩] }
  | taken {t : Target} (ht : target? p known f = some t) (hgeneric : t.isGeneric = false)
    (htaken : file.isTaken t.formatName = true) :
    FormatsType p known file f
      { reports := [⟨.error, t.pos, Bytes.ofString
        ("cannot generate " ++ t.formatName ++ ": the name is already declared")⟩] }
  | made {t : Target} (ht : target? p known f = some t) (hgeneric : t.isGeneric = false)
    (hfree : file.isTaken t.formatName = false) :
    FormatsType p known file f { decls := [t.formatFunction.declaration], reports := t.blankWarnings }

/-- Struct types are no interfaces and no enumerations. -/
theorem kindOf_of_isStruct {p : Program} {n : TypeName} (h : (body p p.fuel (p.typeOf n)).isStruct) :
    kindOf p n = .concrete := by
  have hbody := Body.eq_struct_of_isStruct h
  have hinterface : (p.interface? n).isSome = false := by rw [Program.interface?, hbody]; rfl
  have henum : isEnum p n = false := by rw [isEnum, hbody]; rfl
  rw [kindOf, hinterface, henum]
  rfl

/-- Going through the fields, a function gets a statement for each field that it shows. What comes before a field is what
came before the first one as long as none is shown, and a comma from then on. Each blank field to be shown is
reported. -/
theorem foldlM_appendField_run (function : String) (fields : List FieldInfo) (b : FormatBody) (w : Work) :
    ∃ separator, (fields.foldlM (FormatBody.appendField function) b).run w =
      (.ok ⟨b.steps ++ fieldSteps b.separator (shownOf fields), separator⟩,
        { w with reports := w.reports ++ blankWarningsOf function fields }) := by
  induction fields generalizing b w with
  | nil =>
    refine ⟨b.separator, ?_⟩
    change (Except.ok b, w) = (Except.ok ⟨b.steps ++ [], b.separator⟩, { w with reports := w.reports ++ [] })
    rw [List.append_nil, List.append_nil]
  | cons i fields ih =>
    rw [List.foldlM_cons, Generate.run_bind, FormatBody.appendField]
    cases hnamed : isNamed i with
    | false =>
      obtain ⟨separator, hrest⟩ := ih b w
      refine ⟨separator, ?_⟩
      rw [if_pos (by simpa [isNamed] using hnamed)]
      change (fields.foldlM (FormatBody.appendField function) b).run w = _
      rw [hrest]
      simp [shownOf, blankWarningsOf, hnamed]
    | true =>
      rw [if_neg (by simpa [isNamed, Option.isSome_iff_ne_none] using hnamed)]
      by_cases hblank : i.name = "_"
      · obtain ⟨separator, hrest⟩ := ih b (w.report .warning i.pos _)
        refine ⟨separator, ?_⟩
        rw [if_pos hblank]
        change (fields.foldlM (FormatBody.appendField function) b).run (w.report .warning i.pos _) = _
        rw [hrest]
        simp [shownOf, blankWarningsOf, hnamed, hblank, Work.report]
      · obtain ⟨separator, hrest⟩ := ih ⟨b.steps ++ [.appendField (b.separator ++ i.name ++ "=") i.name], ", "⟩ w
        refine ⟨separator, ?_⟩
        rw [if_neg hblank]
        change (fields.foldlM (FormatBody.appendField function) _).run w = _
        rw [hrest]
        simp [shownOf, blankWarningsOf, hnamed, hblank, fieldSteps]

/-- What is done about an element goes on from the work so far, and never breaks down. -/
theorem generateFormat_run (p : Program) (known : Known) (f : Found) {file : GeneratedFile} {w : Work}
    (hw : w.IsOn file) :
    ∃ part w', (generateFormat p known f).run w = (.ok (), w') ∧ FormatsType p known file f part ∧
      w.Adds part w' := by
  unfold generateFormat
  cases htype : f.type with
  | none =>
    have hother : ∀ n, f.type = some n → kindOf p n ≠ .concrete := fun n hn => by rw [htype] at hn; cases hn
    exact ⟨_, _, rfl, .passedOver hother, .refl w⟩
  | some n =>
    dsimp only
    split
    · rename_i hkind
      have hother : ∀ m, f.type = some m → kindOf p m ≠ .concrete := fun m hm => by
        rw [← Option.some.inj (htype.symm.trans hm)]
        exact hkind
      exact ⟨_, _, rfl, .passedOver hother, .refl w⟩
    · rename_i hkind
      cases ht : target? p known f with
      | none => exact ⟨_, _, rfl, .noStruct htype (not_not.mp hkind) ht, .report w _ _ _⟩
      | some t =>
        obtain rfl : n = t.type := Option.some.inj (htype.symm.trans (type_of_target? ht).1)
        dsimp only
        cases hgeneric : t.isGeneric with
        | true => exact ⟨_, _, rfl, .generic ht hgeneric, .report w _ _ _⟩
        | false =>
          rw [if_neg (by decide)]
          cases htaken : file.isTaken t.formatName with
          | true =>
            refine ⟨_, _, ?_, .taken ht hgeneric htaken, .report w _ _ _⟩
            change (ite (w.file.isTaken t.formatName = true) _ _ : Generate Unit).run w = _
            rw [hw.isTaken, if_pos htaken]
            rfl
          | false =>
            obtain ⟨separator, hbody⟩ := foldlM_appendField_run ("Format" ++ t.type.name) t.fields (.start t.type.name) w
            refine ⟨_, { w with file := w.file.add t.formatFunction.declaration, first := w.first.or (some t.pos),
                                reports := w.reports ++ t.blankWarnings }, ?_, .made ht hgeneric htaken, rfl, rfl, rfl⟩
            change (ite (w.file.isTaken t.formatName = true) _ _ : Generate Unit).run w = _
            rw [hw.isTaken, if_neg (by rw [htaken]; decide), Generate.run_bind, hbody]
            rfl

/-- The work on elements, one after another. -/
theorem generateFormats_run (p : Program) (known : Known) (fs : List Found) {file : GeneratedFile} {w : Work}
    (hw : w.IsOn file) :
    ∃ part w', (Generate.each (generateFormat p known) fs).run w = (.ok (), w') ∧
      Answered (FormatsType p known file) fs part ∧ w.Adds part w' := by
  induction fs generalizing w with
  | nil => exact ⟨_, w, rfl, .nil, .refl w⟩
  | cons f fs ih =>
    obtain ⟨part, w₁, hrun, hpart, hadds⟩ := generateFormat_run p known f hw
    obtain ⟨parts, w', hruns, hparts, hadds'⟩ := ih (hw.adds hadds)
    refine ⟨part ++ parts, w', ?_, .cons hpart hparts, hadds'.name.trans hadds.name,
      hadds'.package.trans hadds.package, ?_⟩
    · rw [Generate.each, Generate.run_bind, hrun]
      exact hruns
    · rw [hadds'.portion, hadds.portion, Portion.append_assoc]

/-- A file has a function of the name that formats a struct type. With a value, its statements return the fields that are
shown, and so does a call, if the names of the file are what they are meant to be in the package. -/
def Formats (t : Target) (pkg : Package) (file : TextFile) : Prop :=
  ∃ fn ∈ file.functions, fn.name = t.formatName ∧
    ∀ (V : Type) (site : CallSite V) (display : V → Bytes) (value : String → V),
      site.IsFor pkg t.type.name display →
      (∀ i ∈ t.fields, i.name ≠ "_" → site.fields i.name = some (value i.name)) →
      let text := formatted t.type.name (t.shown.map fun field => (field, display (value field)))
      file.execute? site fn = some text ∧ file.call? site fn = if file.namesFit site then some text else none

theorem isWord_formatName {t : Target} (h : IsWord t.type.name.toList) : IsWord t.formatName.toList := by
  obtain ⟨c, cs, htype, hc, hcs⟩ := h.start
  have htail : ∀ d ∈ c :: cs, isWordTail d = true :=
    List.forall_mem_cons.mpr ⟨by simp [isWordTail, hc], hcs⟩
  have hchars : t.formatName.toList = 'F' :: ("ormat".toList ++ c :: cs) := by
    simp [Target.formatName, htype]
  rw [hchars]
  refine ⟨⟨'F', _, rfl, by decide, List.forall_mem_append.mpr ⟨List.all_eq_true.mp (by decide), htail⟩⟩, fun hkeyword => ?_⟩
  have hnone : ∀ k ∈ keywords, k.toList.head? ≠ some 'F' := by decide
  exact hnone _ hkeyword (by simp)

theorem exists_of_mem_shown {t : Target} {field : String} (h : field ∈ t.shown) :
    ∃ i ∈ t.fields, i.name = field ∧ field ≠ "_" := by
  obtain ⟨i, hi, rfl⟩ := List.mem_map.mp h
  obtain ⟨hi, hnamed⟩ := List.mem_filter.mp hi
  exact ⟨i, hi, rfl, by simpa using (Bool.and_eq_true_iff.mp hnamed).2⟩

theorem isSpelled_formatFunction {t : Target} (h : t.IsSpelled) : t.formatFunction.IsSpelled where
  name := isWord_formatName h.type
  type := h.type
  fields _ field hfield := by
    obtain ⟨i, hi, rfl, -⟩ := exists_of_mem_shown (mem_shown_of_mem_formatSteps hfield)
    exact h.fields i hi

/-- A file of formatting functions, as it is written, has a function for each of them. -/
theorem exists_textFile {writer : Writer} (hwriter : writer.WritesFunctions) {pkg : Package}
    (hname : IsWord pkg.name.toList) {ts : List Target} (hspelled : ∀ t ∈ ts, t.IsSpelled) :
    ∃ text file, writer.content ⟨pkg.path, pkg.name, ts.map fun t => t.formatFunction.declaration⟩ =
        .ok (Bytes.ofString text) ∧
      TextFile.read? text = some file ∧ ∀ t ∈ ts, Formats t pkg file := by
  obtain ⟨text, imports, sprint, hcontent, hpieces, hreaches, hnone⟩ := hwriter pkg.path pkg.name
    (ts.map Target.formatFunction) hname
    (List.forall_mem_map.mpr fun t ht => isSpelled_formatFunction (hspelled t ht))
  rw [List.map_map] at hcontent
  have hsteps : ∀ f ∈ ts.map Target.formatFunction, f.steps ≠ [] :=
    List.forall_mem_map.mpr fun t _ => List.cons_ne_nil _ _
  have hread : ∀ f ∈ ts.map Target.formatFunction, ∀ step ∈ f.steps, step.CanBeRead sprint := by
    intro f hf step hstep
    cases step with
    | appendField label field =>
      cases hreaches ⟨f, hf, label, field, hstep⟩ <;> exact List.cons_ne_nil _ _
    | _ => trivial
  refine ⟨text, _, hcontent, read?_of_pieces hpieces hsteps hread, fun t ht => ?_⟩
  have hf : t.formatFunction ∈ ts.map Target.formatFunction := List.mem_map_of_mem ht
  refine ⟨_, List.mem_map_of_mem hf, rfl, fun V site display value hsite hvalues => ?_⟩
  have hfields : ∀ field ∈ t.shown, field ≠ "_" ∧ site.fields field = some (value field) := by
    intro field hfield
    obtain ⟨i, hi, rfl, hne⟩ := exists_of_mem_shown hfield
    exact ⟨hne, hvalues i hi hne⟩
  have hexecute := execute?_textFunction hsite pkg.name hreaches hf rfl hfields
  refine ⟨hexecute, ?_⟩
  rw [call?_textFunction (f := t.formatFunction) hsite pkg.name hreaches hnone, hexecute]
  rfl

/-- An element has the function of its type, if that can be generated. -/
theorem FormatsType.exists_targets {p : Program} {known : Known} {file : GeneratedFile} {f : Found} {x : Portion}
    (h : FormatsType p known file f x) :
    ∃ ts : List Target, x.decls = ts.map (fun t => t.formatFunction.declaration) ∧
      ∀ t, t ∈ ts ↔ target? p known f = some t ∧ t.isGeneric = false ∧ file.isTaken t.formatName = false := by
  cases h with
  | made ht hgeneric hfree =>
    refine ⟨[_], rfl, fun u => ?_⟩
    rw [List.mem_singleton]
    constructor
    · rintro rfl
      exact ⟨ht, hgeneric, hfree⟩
    · rintro ⟨hu, -, -⟩
      exact Option.some.inj (hu.symm.trans ht)
  | passedOver hother =>
    refine ⟨[], rfl, fun u => iff_of_false (by simp) fun ⟨hu, _⟩ => ?_⟩
    obtain ⟨htype, hstruct⟩ := type_of_target? hu
    exact hother u.type htype (kindOf_of_isStruct hstruct)
  | noStruct _ _ hnone => exact ⟨[], rfl, fun u => by simp [hnone]⟩
  | generic ht hgeneric =>
    refine ⟨[], rfl, fun u => iff_of_false (by simp) fun ⟨hu, hno, _⟩ => ?_⟩
    obtain rfl := Option.some.inj (hu.symm.trans ht)
    rw [hgeneric] at hno
    cases hno
  | taken ht _ htaken =>
    refine ⟨[], rfl, fun u => iff_of_false (by simp) fun ⟨hu, _, hfree⟩ => ?_⟩
    obtain rfl := Option.some.inj (hu.symm.trans ht)
    rw [htaken] at hfree
    cases hfree

/-- What is declared for elements whose formatting functions are asked for, as functions of types. -/
theorem exists_targets {p : Program} {known : Known} {file : GeneratedFile} {fs : List Found} {x : Portion}
    (h : Answered (FormatsType p known file) fs x) :
    ∃ ts : List Target, x.decls = ts.map (fun t => t.formatFunction.declaration) ∧
      ∀ t, t ∈ ts ↔
        ∃ f ∈ fs, target? p known f = some t ∧ t.isGeneric = false ∧ file.isTaken t.formatName = false := by
  induction h with
  | nil => exact ⟨[], rfl, by simp⟩
  | cons now later ih =>
    obtain ⟨ts, hdecls, hts⟩ := now.exists_targets
    obtain ⟨us, hdecls', hus⟩ := ih
    refine ⟨ts ++ us, ?_, fun t => ?_⟩
    · rw [Portion.decls_append, hdecls, hdecls', List.map_append]
    · rw [List.mem_append, hts, hus, List.exists_mem_cons_iff]

/-- Each struct type without parameters that is to be formatted has a function, unless the name is taken. With a value,
the statements of the function return the name of the type and, in braces, the fields to be shown, each with its name
and what the value has there, in the order of their declaration and with separators between them. So does a call of the
function in the file that is written, unless the file cannot be compiled because the package has other uses for its
names. Each blank field to be shown has one warning instead. -/
theorem format_functions_show_fields {σ : Type} (env : Environment) (pkg : Package) (found : List Found)
    (known : Known) (hwriter : env.writer.WritesFunctions) (hname : IsWord pkg.name.toList)
    (hspelled : ∀ f ∈ annotatedWith found "ToString", ∀ t, target? env.program known f = some t → t.IsSpelled) :
    ∃ w text file,
      generatorRun env "ToString" "autoserv.go" generateFormat pkg found known = (.ok (), w) ∧
      Answered (FormatsType env.program known (.new pkg "autoserv.go")) (annotatedWith found "ToString") w.portion ∧
      env.writer.content w.file.spec = .ok (Bytes.ofString text) ∧ TextFile.read? text = some file ∧
      (∀ f ∈ annotatedWith found "ToString", ∀ t, target? env.program known f = some t → t.isGeneric = false →
        (GeneratedFile.new pkg "autoserv.go").isTaken t.formatName = false →
          t.formatFunction.declaration ∈ w.file.decls ∧ Formats t pkg file) ∧
      ∀ s : Session σ, Processor.toStrings.process env (.package pkg found known) s =
        (.ok (), .toStrings, w.leave env s) := by
  have hstart : Work.IsOn { file := .new pkg "autoserv.go" } (.new pkg "autoserv.go") := ⟨rfl, rfl⟩
  obtain ⟨part, w, hrun, hanswered, hadds⟩ :=
    generateFormats_run env.program known (annotatedWith found "ToString") hstart
  have hportion : w.portion = part := by
    rw [hadds.portion]
    rfl
  rw [← hportion] at hanswered
  obtain ⟨ts, hdecls, hts⟩ := exists_targets hanswered
  obtain ⟨text, file, hcontent, hread, hformats⟩ := exists_textFile hwriter hname fun t ht => by
    obtain ⟨f, hf, ht, -⟩ := (hts t).mp ht
    exact hspelled f hf t ht
  have hspec : w.file.spec = ⟨pkg.path, pkg.name, ts.map fun t => t.formatFunction.declaration⟩ := by
    rw [GeneratedFile.spec, hadds.package, ← hdecls]
    rfl
  refine ⟨w, text, file, hrun, hanswered, by rw [hspec, hcontent], hread, fun f hf t ht hgeneric hfree => ?_,
    process_of_run (fun _ => rfl) hrun⟩
  have hmem : t ∈ ts := (hts t).mpr ⟨f, hf, ht, hgeneric, hfree⟩
  refine ⟨?_, hformats t hmem⟩
  change _ ∈ w.portion.decls
  rw [hdecls]
  exact List.mem_map_of_mem hmem

namespace Blanks

/-- A struct whose first and last fields are blank, to be formatted without one of the others. -/
def file : Source.File :=
  (Source.File.read? (Bytes.ofString "p/p.go") (Bytes.ofString
    ("package p\n\n// @autoserv.ToString\ntype Point struct\x7b\n// @autoserv.Name\n_ int\n// @autoserv.Name\nx int\n" ++
      "y int\n// @autoserv.Name\nz int\n// @autoserv.Name\n_ int\n\x7d\n"))).get (by decide +kernel)

def pkg : Package := { id := "p", path := "p", name := "p", dir := Bytes.ofString "p", files := [file] }

/-- A value of the struct, of which one knows what is printed. -/
def site : CallSite String where
  own := Bytes.ofString "p"
  declares n := (pkg.object? n).isSome
  type := "Point"
  fields name := some (if name = "x" then "1" else "3")
  packageName? path := if path = Bytes.ofString "fmt" then some "fmt" else none
  function? path name := if path = Bytes.ofString "fmt" ∧ name = "Sprint" then some Bytes.ofString else none

/-- Whether a run has found the struct with all its fields and nothing else, and writes a file that can be compiled. -/
structure HasPoint (run : List Found × Known × Work) : Prop where
  found : ∃ f ∈ annotatedWith run.1 "ToString", (target? (environmentOf pkg).program run.2.1 f).any fun t =>
    !t.isGeneric && !(GeneratedFile.new pkg "autoserv.go").isTaken t.formatName && t.shown == ["x", "z"] &&
      t.blankWarnings.length == 2
  alone : ∀ f ∈ annotatedWith run.1 "ToString", (target? (environmentOf pkg).program run.2.1 f).all fun t =>
    t.type.name == "Point" && t.fields.map FieldInfo.name == ["_", "x", "y", "z", "_"]
  compiles : (TextFile.read? run.2.2.file.spec.text).any (·.namesFit site) = true

instance : DecidablePred HasPoint := fun _ =>
  decidable_of_iff ((∃ _ ∈ _, _) ∧ (∀ _ ∈ _, _) ∧ _)
    ⟨fun ⟨hfound, halone, hcompiles⟩ => ⟨hfound, halone, hcompiles⟩, fun h => ⟨h.found, h.alone, h.compiles⟩⟩

theorem hasPoint_soleRun :
    (soleRun "ToString" "autoserv.go" generateFormat pkg).any (decide <| HasPoint ·) = true := by
  decide +kernel

end Blanks

open Blanks in
theorem format_functions_show_fields_blank :
    ∃ found known f t, ∃ w : Work, ∃ text file, scan (environmentOf pkg).program pkg {} = (.ok found, known) ∧
      f ∈ annotatedWith found "ToString" ∧ target? (environmentOf pkg).program known f = some t ∧
      t.fields.map FieldInfo.name = ["_", "x", "y", "z", "_"] ∧ t.blankWarnings.length = 2 ∧
      Answered (FormatsType (environmentOf pkg).program known (.new pkg "autoserv.go"))
        (annotatedWith found "ToString") w.portion ∧
      Writer.standard.content w.file.spec = .ok (Bytes.ofString text) ∧ TextFile.read? text = some file ∧
      ∃ fn ∈ file.functions, fn.name = "FormatPoint" ∧
        file.call? site fn = some (Bytes.ofString "Point{ x=1, z=3 }") := by
  obtain ⟨found, known, w, hscan, hrun, ⟨f, hf, hany⟩, halone, hcompiles⟩ := exists_of_soleRun hasPoint_soleRun
  obtain ⟨t, ht, hpoint⟩ := (Option.any_eq_true _ _).mp hany
  simp only [Bool.and_eq_true, Bool.not_eq_true', beq_iff_eq] at hpoint
  obtain ⟨⟨⟨hgeneric, hfree⟩, hshown⟩, hblank⟩ := hpoint
  have hpoint : ∀ f ∈ annotatedWith found "ToString", ∀ t, target? (environmentOf pkg).program known f = some t →
      t.type.name = "Point" ∧ t.fields.map FieldInfo.name = ["_", "x", "y", "z", "_"] := fun f hf t ht => by
    simpa [ht] using halone f hf
  have hwords : ∀ n ∈ ["_", "x", "y", "z", "_"], IsWord n.toList := by decide
  obtain ⟨w', text, file, hrun', hanswered, hcontent, hread, hformats, -⟩ :=
    format_functions_show_fields (σ := Unit) (environmentOf pkg) pkg found known writesFunctions_standard (by decide)
      fun f hf t ht => by
        obtain ⟨hname, hfields⟩ := hpoint f hf t ht
        exact ⟨by rw [hname]; decide, fun i hi => hwords _ (hfields ▸ List.mem_map_of_mem hi)⟩
  obtain rfl : w = w' := (Prod.mk.inj (hrun.symm.trans hrun')).2
  have htext : text = w.file.spec.text := by
    change Writer.standard.content w.file.spec = _ at hcontent
    simp only [Writer.standard] at hcontent
    split at hcontent
    · cases hcontent
    · exact String.toList_injective (Utf8.ofChars_injective (Except.ok.inj hcontent).symm)
  have hfits : file.namesFit site = true := by simpa [← htext, hread] using hcompiles
  obtain ⟨hname, hfields⟩ := hpoint f hf t ht
  obtain ⟨-, fn, hfn, hfname, hcall⟩ := hformats f hf t ht hgeneric hfree
  refine ⟨found, known, f, t, w, text, file, hscan, hf, ht, hfields, hblank, hanswered, hcontent, hread, fn, hfn, ?_, ?_⟩
  · rw [hfname, Target.formatName, hname]
    rfl
  · have hsite : site.IsFor pkg t.type.name Bytes.ofString :=
      { own := rfl
        declares := fun n => by rw [site]
        type := hname.symm
        packageName := by simp [site]
        display := by simp [site] }
    obtain ⟨-, hcall⟩ := hcall String site Bytes.ofString (fun n => if n = "x" then "1" else "3") hsite
      fun _ _ _ => rfl
    rw [hcall, if_pos hfits, hname, hshown]
    decide

end ServiceAnnotations.Processing
