import ServiceAnnotations.Proofs.Elements.Steps
import ServiceAnnotations.Proofs.Except
import ServiceAnnotations.Proofs.Source.Docs

/-! # What a scan looks at

A scan that succeeds has looked at the comments of all declarations and of their members, and every
annotation it found there stands on an element. Comments elsewhere have none. -/
namespace ServiceAnnotations.Elements
open Registry Source ServiceAnnotations.Types

/-- Whether every annotation in the text of a comment stands on one of the elements. -/
def Carried (p : Program) (scope : Scope) (found : List Found) (doc : CommentGroup) : Prop :=
  ∀ text lines, extract? scope.file.path doc = some (text, lines) →
    ∃ marks, Mark.parse text = .ok marks ∧ ∀ m ∈ marks, ∃ a, Site.annot ⟨p, scope, lines⟩ m = .ok a ∧
      ∃ e ∈ found, a ∈ e.element.annots

theorem Carried.mono {p : Program} {scope : Scope} {found found' : List Found} {doc : CommentGroup}
    (h : Carried p scope found doc) (hsub : ∀ e ∈ found, e ∈ found') : Carried p scope found' doc := by
  intro text lines htext
  obtain ⟨marks, hmarks, hcarried⟩ := h text lines htext
  refine ⟨marks, hmarks, fun m hm => ?_⟩
  obtain ⟨a, ha, e, he, hae⟩ := hcarried m hm
  exact ⟨a, ha, e, hsub e he, hae⟩

theorem carried_of_annotsOf {p : Program} {scope : Scope} {found : List Found} {doc : CommentGroup}
    {annots : List SourceAnnot} (h : annotsOf p scope doc = .ok annots)
    (hfound : ∀ a ∈ annots, ∃ e ∈ found, a ∈ e.element.annots) : Carried p scope found doc := by
  intro text lines htext
  simp only [annotsOf, htext] at h
  cases hmarks : Mark.parse text with
  | error e => simp [hmarks] at h
  | ok marks =>
    rw [hmarks] at h
    refine ⟨marks, rfl, fun m hm => ?_⟩
    obtain ⟨a, ha, hm⟩ := exists_of_mapM_eq_ok h hm
    exact ⟨a, hm, hfound a ha⟩

/-- The comment of an item of an interface. Embedded types are not looked at. -/
def itemDocs : InterfaceItem → List CommentGroup
  | .method doc _ _ => doc.toList
  | .embed _ => []

def memberDocs : TypeExpr → List CommentGroup
  | .struct fields => fields.flatMap (·.doc.toList)
  | .interface items => items.flatMap itemDocs
  | _ => []

/-- The comments that are looked at for annotations of what a declaration declares and of its members;
those of constants and variables once for each name. -/
def declDocs : Source.Decl → List CommentGroup
  | .type spec => spec.doc.toList ++ memberDocs spec.body
  | .const spec => spec.names.flatMap fun _ => spec.doc.toList
  | .var spec => spec.names.flatMap fun _ => spec.doc.toList
  | .func spec => spec.doc.toList

/-- What a part of a scan does that looks at the given comments: what was found before stays found, and
the annotations of these comments are found. -/
structure Covers (p : Program) (scope : Scope) (docs : List CommentGroup) (s s' : Scan) : Prop where
  processed : ∀ doc, doc ∈ s'.processed ↔ doc ∈ docs ∨ doc ∈ s.processed
  kept : ∀ e ∈ s.found, e ∈ s'.found
  carried : ∀ doc ∈ docs, Carried p scope s'.found doc

section
variable {α : Type} {p : Program} {scope : Scope} {s s₁ s₂ s' : Scan} {docs docs' : List CommentGroup}

theorem Covers.refl (s : Scan) : Covers p scope [] s s where
  processed := by simp
  kept _ he := he
  carried := by simp

theorem Covers.trans (h₁ : Covers p scope docs s s₁) (h₂ : Covers p scope docs' s₁ s₂) :
    Covers p scope (docs ++ docs') s s₂ where
  processed doc := by
    rw [h₂.processed, h₁.processed, List.mem_append]
    tauto
  kept e he := h₂.kept e (h₁.kept e he)
  carried doc hdoc := by
    rcases List.mem_append.mp hdoc with hdoc | hdoc
    · exact (h₁.carried doc hdoc).mono h₂.kept
    · exact h₂.carried doc hdoc

theorem covers_each {f : α → ScanStep Unit} {docsOf : α → List CommentGroup}
    (hf : ∀ {a s s'}, (f a).run s = (.ok (), s') → Covers p scope (docsOf a) s s') {as : List α}
    (h : (Scan.each f as).run s = (.ok (), s')) : Covers p scope (as.flatMap docsOf) s s' :=
  ScanStep.run_each (R := fun as s s' => Covers p scope (as.flatMap docsOf) s s') Covers.refl
    (fun ha has => (hf ha).trans has) h

theorem member_covers {enclosing : SourceElement} {doc : Option CommentGroup} {id : Ident}
    (h : (Scan.member p scope enclosing doc id).run s = (.ok (), s')) :
    Covers p scope doc.toList s s' ∧ s'.known = s.known := by
  obtain ⟨hdoc, hadd⟩ := ScanStep.run_member h
  obtain ⟨hknown, hprocessed, hkept⟩ := ScanStep.run_add_keeps hadd
  refine ⟨⟨fun d => by simp [hprocessed], hkept, fun d hd => ?_⟩, hknown⟩
  exact carried_of_annotsOf (hdoc d (by simpa using hd)) (ScanStep.exists_mem_found_of_add hadd)

def KeepsTypes (s s' : Scan) : Prop := ∀ n, (s'.known.type n).annots = (s.known.type n).annots

theorem covers_each_keeping {f : α → ScanStep Unit} {docsOf : α → List CommentGroup}
    (hf : ∀ {a s s'}, (f a).run s = (.ok (), s') → Covers p scope (docsOf a) s s' ∧ KeepsTypes s s')
    {as : List α} (h : (Scan.each f as).run s = (.ok (), s')) :
    Covers p scope (as.flatMap docsOf) s s' ∧ KeepsTypes s s' := by
  refine ⟨covers_each (fun ha => (hf ha).1) h, ?_⟩
  exact ScanStep.run_each (R := fun _ => KeepsTypes) (fun _ _ => rfl)
    (fun ha hrest n => (hrest n).trans ((hf ha).2 n)) h

theorem fieldIdents_ne_nil (f : Field) : Scan.fieldIdents f ≠ [] := by
  unfold Scan.fieldIdents
  split
  · exact List.cons_ne_nil _ _
  · assumption

structure AddsNames (annots : List SourceAnnot) (ids : List Ident) (s s' : Scan) : Prop where
  processed : s'.processed = s.processed
  kept : ∀ e ∈ s.found, e ∈ s'.found
  types : KeepsTypes s s'
  found : ids ≠ [] → ∀ a ∈ annots, ∃ e ∈ s'.found, a ∈ e.element.annots

theorem field_covers {n : TypeName} {f : Field} (h : (Scan.field p scope n f).run s = (.ok (), s')) :
    Covers p scope f.doc.toList s s' ∧ KeepsTypes s s' := by
  obtain ⟨hdoc, hnames⟩ := ScanStep.run_field h
  have hadds : AddsNames (docAnnots p scope f.doc) (Scan.fieldIdents f) (s.looked f.doc) s' := by
    refine ScanStep.run_each (R := AddsNames _) ?_ ?_ hnames
    · exact fun _ => ⟨rfl, fun _ he => he, fun _ => rfl, fun hne => absurd rfl hne⟩
    · intro id ids s s₁ s₂ hid hrest
      obtain ⟨k, rfl, hadd⟩ := ScanStep.run_addField hid
      obtain ⟨hknown, hprocessed, hkept⟩ := ScanStep.run_add_keeps hadd
      refine ⟨hrest.processed.trans hprocessed, fun e he => hrest.kept e (hkept e he), fun m => ?_, ?_⟩
      · rw [hrest.types, hknown, Known.type_updateType]
        split
        · simp [*]
        · rfl
      · intro _ a ha
        obtain ⟨e, he, hae⟩ := ScanStep.exists_mem_found_of_add hadd a ha
        exact ⟨e, hrest.kept e he, hae⟩
  refine ⟨⟨fun d => by simp [hadds.processed], hadds.kept, fun d hd => ?_⟩, hadds.types⟩
  -- The comment was read once for all names. A field without any would lose its annotations.
  exact carried_of_annotsOf (hdoc d (by simpa using hd)) (hadds.found (fieldIdents_ne_nil f))

theorem item_covers {n : TypeName} {i : InterfaceItem}
    (h : (Scan.item p scope n i).run s = (.ok (), s')) :
    Covers p scope (itemDocs i) s s' ∧ KeepsTypes s s' := by
  obtain ⟨doc, name, sig, rfl, hmember⟩ | ⟨terms, rfl, rfl⟩ := ScanStep.run_item h
  · obtain ⟨hcovers, hknown⟩ := member_covers hmember
    exact ⟨hcovers, fun _ => by rw [hknown]⟩
  · exact ⟨Covers.refl _, fun _ => rfl⟩

theorem members_covers {n : TypeName} {body : TypeExpr}
    (h : (Scan.members p scope n body).run s = (.ok (), s')) :
    Covers p scope (memberDocs body) s s' ∧ KeepsTypes s s' := by
  unfold Scan.members at h
  split at h
  · exact covers_each_keeping field_covers h
  · exact covers_each_keeping item_covers h
  · rename_i hstruct hinterface
    obtain ⟨-, rfl⟩ := Prod.mk.inj h
    have hdocs : memberDocs body = [] := memberDocs.eq_3 body hstruct hinterface
    exact ⟨hdocs ▸ Covers.refl s, fun _ => rfl⟩

/-- The annotations of a type are still those of its comment after its members were added. -/
theorem annots_typeElement {spec : TypeSpec} {k : Known}
    (h : (Scan.members p scope (typeNameIn scope.package scope.file spec.name) spec.body).run
      { s with known := Scan.typeKnown p scope spec k } = (.ok (), s')) :
    (typeElement p s'.known (typeNameIn scope.package scope.file spec.name)).annots =
      docAnnots p scope spec.doc := by
  refine ((members_covers h).2 _).trans ?_
  rw [Scan.type_typeKnown, if_pos rfl]

theorem type_covers {spec : TypeSpec} (h : (Scan.type p scope spec).run s = (.ok (), s')) :
    Covers p scope (spec.doc.toList ++ memberDocs spec.body) s s' := by
  obtain ⟨hdoc, -, s₁, hmembers, hadd⟩ := ScanStep.run_type h
  have hcovers := (members_covers hmembers).1
  obtain ⟨-, hprocessed, hkept⟩ := ScanStep.run_add_keeps hadd
  constructor
  · intro d
    rw [hprocessed, hcovers.processed]
    simp only [Scan.looked_processed, List.mem_append]
    tauto
  · exact fun e he => hkept e (hcovers.kept e he)
  · intro d hd
    rcases List.mem_append.mp hd with hd | hd
    · have hfound := ScanStep.exists_mem_found_of_add hadd
      rw [annots_typeElement hmembers] at hfound
      exact carried_of_annotsOf (hdoc d (by simpa using hd)) hfound
    · exact (hcovers.carried d hd).mono hkept

theorem decl_covers {d : Decl} (h : (Scan.decl p scope d).run s = (.ok (), s')) :
    Covers p scope (declDocs d) s s' := by
  rw [Scan.decl, ScanStep.run_get_bind] at h
  cases d with
  | type spec => exact type_covers h
  | const spec => exact covers_each (fun hm => (member_covers hm).1) h
  | var spec => exact covers_each (fun hm => (member_covers hm).1) h
  | func spec => exact (member_covers h).1

end

/-- The comments in a file that are looked at for annotations, that of the package apart. -/
def fileDocs (f : File) : List CommentGroup := f.decls.flatMap declDocs

section
variable {p : Program} {pkg : Package} {f : File} {s s' : Scan}

/-- All annotations in comments of a file that document something are looked at. -/
theorem file_covers (h : (Scan.file p pkg f).run s = (.ok (), s')) :
    Covers p { package := pkg, file := f } (fileDocs f) { s with processed := [] } s' ∧
      ∀ doc ∈ f.docs, (findAnnotPlace? f.path doc).isSome → doc ∈ s'.processed := by
  obtain ⟨hdecls, hseen⟩ := ScanStep.run_file h
  exact ⟨covers_each decl_covers hdecls, hseen⟩

theorem files_run {files : List File} (h : (Scan.each (Scan.file p pkg) files).run s = (.ok (), s')) :
    (∀ e ∈ s.found, e ∈ s'.found) ∧ ∀ f ∈ files, ∃ s₁ s₂, (Scan.file p pkg f).run s₁ = (.ok (), s₂) ∧
      ∀ e ∈ s₂.found, e ∈ s'.found := by
  refine ScanStep.run_each (R := fun files s s' => (∀ e ∈ s.found, e ∈ s'.found) ∧
    ∀ f ∈ files, ∃ s₁ s₂, (Scan.file p pkg f).run s₁ = (.ok (), s₂) ∧ ∀ e ∈ s₂.found, e ∈ s'.found)
    (fun _ => ⟨fun _ he => he, by simp⟩) ?_ h
  rintro f files s s₁ s₂ hf ⟨hkept, hrest⟩
  refine ⟨fun e he => hkept e ((file_covers hf).1.kept e he), fun f' hf' => ?_⟩
  rcases List.mem_cons.mp hf' with rfl | hf'
  · exact ⟨s, s₁, hf, hkept⟩
  · exact hrest f' hf'

theorem packageDocs_run {files : List File}
    (h : (Scan.each (Scan.packageDoc p pkg) files).run s = (.ok (), s')) :
    (s.known.package pkg.id).annots ⊆ (s'.known.package pkg.id).annots ∧
      ∀ f ∈ files, ∀ doc ∈ f.doc, ∃ annots, annotsOf p { package := pkg, file := f } doc = .ok annots ∧
        annots ⊆ (s'.known.package pkg.id).annots := by
  refine ScanStep.run_each
    (R := fun files s s' => (s.known.package pkg.id).annots ⊆ (s'.known.package pkg.id).annots ∧
      ∀ f ∈ files, ∀ doc ∈ f.doc, ∃ annots, annotsOf p { package := pkg, file := f } doc = .ok annots ∧
        annots ⊆ (s'.known.package pkg.id).annots) (fun _ => ⟨fun _ ha => ha, by simp⟩) ?_ h
  rintro f files s s₁ s₂ hf ⟨hsub, hrest⟩
  obtain ⟨hdoc, pos, rfl⟩ := ScanStep.run_packageDoc hf
  rw [Known.package_updatePackage] at hsub
  refine ⟨fun a ha => hsub (List.mem_append_left _ ha), fun f' hf' => ?_⟩
  rcases List.mem_cons.mp hf' with rfl | hf'
  · exact fun doc h => ⟨_, hdoc doc h, fun a ha => hsub (List.mem_append_right _ ha)⟩
  · exact hrest f' hf'

/-- A scan that succeeds has looked at every annotated comment in a file, and every annotation it has
looked at stands on an element. -/
theorem scan_keeps_annotations {known known' : Known} {found : List Found}
    (hscan : scan p pkg known = (.ok found, known')) (f : File) (hf : f ∈ pkg.files) :
    ∃ s s', (Scan.file p pkg f).run s = (.ok (), s') ∧ (∀ e ∈ s'.found, e ∈ found) ∧
      (∀ source, f.ReadFrom source → ∀ doc, Documents (lexemes source) doc →
        (findAnnotPlace? f.path doc).isSome → doc ∈ s'.processed) ∧
      ∀ doc, f.doc = some doc ∨ doc ∈ s'.processed →
        Carried p { package := pkg, file := f } found doc := by
  rw [scan_eq_run] at hscan
  split at hscan
  · rename_i s hs
    obtain ⟨rfl, rfl⟩ : s.found = found ∧ s.known = known' := by simpa using hscan
    obtain ⟨s₁, s₂, hdocs, hadd, hfiles⟩ := ScanStep.run_package hs
    obtain ⟨-, hpackage⟩ := packageDocs_run hdocs
    have hfound := ScanStep.exists_mem_found_of_add hadd
    obtain ⟨hkept, hruns⟩ := files_run hfiles
    obtain ⟨s₃, s₄, hrun, hsub⟩ := hruns f hf
    obtain ⟨hcovers, hseen⟩ := file_covers hrun
    refine ⟨s₃, s₄, hrun, hsub, ?_, ?_⟩
    · intro source hsource doc hdoc hsome
      refine hseen doc ?_ hsome
      rw [hsource.docs_eq]
      exact mem_docsFrom_of_documents hdoc
    · rintro doc (hdoc | hdoc)
      · obtain ⟨annots, hannots, hsub⟩ := hpackage f hf doc hdoc
        exact (carried_of_annotsOf hannots fun a ha => hfound a (hsub ha)).mono hkept
      · have hmem : doc ∈ fileDocs f := by simpa using (hcovers.processed doc).mp hdoc
        exact (hcovers.carried doc hmem).mono hsub
  · cases hscan

end

/-- A file with annotations on the package, on a type and on two of its fields. -/
def petSource : List Char :=
  "// @One\npackage pet\n\n// @Two\ntype Cat struct \x7b\n\t// @Three\n\ta, b int\n\x7d\n".toList

def petPath : Bytes := Bytes.ofString "pet.go"

def petPackage (f : File) : Package where
  id := "pet"
  path := "pet"
  name := "pet"
  dir := Bytes.ofString "."
  files := [f]

def petProgram (f : File) : Program := { packages := [petPackage f] }

def petFieldDoc : CommentGroup := [⟨"// @Three".toList, { line := 6, column := 2, offset := 48 }⟩]

theorem petFieldDoc_documents : Documents (lexemes petSource) petFieldDoc := by
  refine ⟨(lexemes petSource).take 7, ⟨⟨.word, ['a'], { line := 7, column := 2, offset := 59 }⟩, _⟩,
    (lexemes petSource).drop 8, by decide +kernel, rfl, ?_⟩
  have htokens : ((lexemes petSource).take 7).map Lexeme.token =
      ((lexemes petSource).take 5).map Lexeme.token ++
        ⟨.keyword, "struct".toList, { line := 5, column := 10, offset := 38 }⟩ ::
        ⟨.operator, "\x7b".toList, { line := 5, column := 17, offset := 45 }⟩ :: [] := by
    decide +kernel
  rw [htokens]
  exact .field (by decide) (by decide) .nil (.inl rfl) (.inl rfl)

def petFieldText : Bytes × LineMap := (extract? petPath petFieldDoc).get (by decide +kernel)

def petFieldSite (f : File) : Site := ⟨petProgram f, { package := petPackage f, file := f }, petFieldText.2⟩

def petFieldNames : List Bytes := ["a", "b"].map Bytes.ofString

/-- Whether the annotation of the fields is called by the name of its package, and is on fields only. -/
def IsPet (f : File) : Prop :=
  (∀ marks ∈ (Mark.parse petFieldText.1).toOption, ∀ m ∈ marks, ∀ a ∈ ((petFieldSite f).annot m).toOption,
    a.type = Bytes.ofString "pet.Three") ∧
  ∃ found ∈ (scan (petProgram f) (petPackage f) {}).1.toOption, ∀ e ∈ found, ∀ a ∈ e.element.annots,
    a.type = Bytes.ofString "pet.Three" → e.element.decl.simpleName ∈ petFieldNames

instance : DecidablePred IsPet := fun _ => inferInstanceAs (Decidable (_ ∧ _))

theorem scan_keeps_annotations_pet :
    ∃ f found text lines m a e, f.ReadFrom petSource ∧ (scan (petProgram f) (petPackage f) {}).1 = .ok found ∧
      Documents (lexemes petSource) petFieldDoc ∧ extract? f.path petFieldDoc = some (text, lines) ∧
      text = Bytes.ofString " @Three\n" ∧ Mark.parse text = .ok [m] ∧
      Site.annot ⟨petProgram f, { package := petPackage f, file := f }, lines⟩ m = .ok a ∧
      a.type = Bytes.ofString "pet.Three" ∧ e ∈ found ∧ e.element.decl.simpleName ∈ petFieldNames ∧
      a ∈ e.element.annots := by
  have hread : (File.read? petPath (Bytes.ofChars petSource)).any (fun f => f.path = petPath ∧ IsPet f) = true := by
    decide +kernel
  obtain ⟨f, hf, hpet⟩ := (Option.any_eq_true _ _).mp hread
  obtain ⟨hpath, htype, found, hfound, hnames⟩ := of_decide_eq_true hpet
  have hread : f.ReadFrom petSource := by rw [File.ReadFrom, hpath, hf]
  have htext : extract? f.path petFieldDoc = some petFieldText := by
    rw [hpath]
    exact (Option.some_get _).symm
  rcases hscan : scan (petProgram f) (petPackage f) {} with ⟨_ | found', known'⟩
  · rw [hscan] at hfound
    cases hfound
  obtain rfl : found' = found := by
    rw [hscan] at hfound
    exact Option.some.inj hfound
  have hsome : (findAnnotPlace? f.path petFieldDoc).isSome = true := by
    rw [hpath]
    decide +kernel
  obtain ⟨s, s', -, -, hseen, hcarried⟩ := scan_keeps_annotations hscan f (List.mem_singleton.mpr rfl)
  obtain ⟨marks, hmarks, hall⟩ := 
    hcarried _ (.inr (hseen petSource hread _ petFieldDoc_documents hsome)) petFieldText.1 petFieldText.2 htext
  obtain ⟨m, rfl⟩ : ∃ m, marks = [m] := by
    have hlength : ((Mark.parse petFieldText.1).toOption.map List.length) = some 1 := by decide +kernel
    rw [hmarks] at hlength
    exact List.length_eq_one_iff.mp (Option.some.inj hlength)
  obtain ⟨a, ha, e, he, hae⟩ := hall m List.mem_cons_self
  have htype : a.type = Bytes.ofString "pet.Three" := by
    refine htype [m] ?_ m List.mem_cons_self a ?_
    · rw [hmarks]
      rfl
    · rw [petFieldSite, ha]
      rfl
  exact ⟨f, found', petFieldText.1, petFieldText.2, m, a, e, hread, by rw [hscan], petFieldDoc_documents, htext, by decide +kernel, hmarks, ha,
    htype, he, hnames e he a hae htype, hae⟩

end ServiceAnnotations.Elements
