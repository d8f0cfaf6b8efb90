import ServiceAnnotations.Proofs.Elements.Scan
import ServiceAnnotations.Proofs.Processing.Copies

/-! # Reading a package again

The files that stay when copies of a generated file are replaced are read as before: the same elements are found in
them, and the same becomes known of the types that they declare. Copies have no comments, so nothing is found in them,
and what becomes known is about other types. -/
namespace ServiceAnnotations.Processing
open Companion Elements Registry Source ServiceAnnotations.Types

def FieldInfo.view (writer : Writer) (p : Program) (f : FieldInfo) : (String × Place × List Bytes) × Option Shape :=
  ((f.name, f.pos, f.annots.map Annot.type), writer.type? p f.scope f.type)

def Found.view (f : Found) : Option TypeName × Option Place × List Bytes :=
  (f.type, f.element.pos, f.element.annots.map Annot.type)

/-- A step follows another one if it succeeds where the other one does, and they come to states that are related. -/
def Follows (R : Scan → Scan → Prop) {α β : Type} (V : α → β → Prop) (x : ScanStep α) (y : ScanStep β) : Prop :=
  ∀ s s' a s₁, R s s' → x.run s = (.ok a, s₁) → ∃ b s₁', y.run s' = (.ok b, s₁') ∧ V a b ∧ R s₁ s₁'

/-- A step that always succeeds, and comes to a state that is related to the one before. -/
def Keeps (K : Scan → Scan → Prop) (x : ScanStep Unit) : Prop := ∀ s, ∃ s₁, x.run s = (.ok (), s₁) ∧ K s s₁

abbrev Done : Unit → Unit → Prop := fun _ _ => True

namespace Follows
variable {R : Scan → Scan → Prop} {α β γ δ ι : Type} {V : α → β → Prop} {W : γ → δ → Prop}

theorem pure {a : α} {b : β} (h : V a b) : Follows R V (Pure.pure a) (Pure.pure b) := by
  intro s s' a' s₁ hs hrun
  obtain ⟨rfl, rfl⟩ : a = a' ∧ s = s₁ := by
    obtain ⟨ha, hs⟩ := Prod.mk.inj hrun
    exact ⟨Except.ok.inj ha, hs⟩
  exact ⟨b, s', rfl, h, hs⟩

theorem bind {x : ScanStep α} {y : ScanStep β} {k : α → ScanStep γ} {l : β → ScanStep δ} (hx : Follows R V x y)
    (hk : ∀ a b, V a b → Follows R W (k a) (l b)) : Follows R W (x >>= k) (y >>= l) := by
  intro s s' c s₂ hs hrun
  obtain ⟨a, s₁, ha, hc⟩ := ScanStep.bind_eq_ok_iff.mp hrun
  obtain ⟨b, s₁', hb, hab, hs₁⟩ := hx s s' a s₁ hs ha
  obtain ⟨d, s₂', hd, hcd, hs₂⟩ := hk a b hab s₁ s₁' c s₂ hs₁ hc
  exact ⟨d, s₂', ScanStep.bind_eq_ok_iff.mpr ⟨b, s₁', hb, hd⟩, hcd, hs₂⟩

theorem get_bind {k l : Scan → ScanStep Unit} (hk : ∀ s s', R s s' → Follows R Done (k s) (l s')) :
    Follows R Done (get >>= k) (get >>= l) := fun s s' a s₁ hs hrun => hk s s' hs s s' a s₁ hs hrun

theorem modify {g g' : Scan → Scan} (hg : ∀ s s', R s s' → R (g s) (g' s')) :
    Follows R Done (modify g) (modify g') := by
  intro s s' a s₁ hs hrun
  obtain rfl : g s = s₁ := (Prod.mk.inj hrun).2
  exact ⟨(), g' s', rfl, trivial, hg s s' hs⟩

theorem each {f g : ι → ScanStep Unit} {as : List ι} (h : ∀ a ∈ as, Follows R Done (f a) (g a)) :
    Follows R Done (Scan.each f as) (Scan.each g as) := by
  induction as with
  | nil => exact pure trivial
  | cons a as ih =>
    obtain ⟨ha, has⟩ := List.forall_mem_cons.mp h
    exact ha.bind fun _ _ _ => ih has

end Follows

theorem each_append {ι : Type} (f : ι → ScanStep Unit) (as bs : List ι) :
    Scan.each f (as ++ bs) = Scan.each f as >>= fun _ => Scan.each f bs := by
  induction as with
  | nil => exact (pure_bind () fun _ => Scan.each f bs).symm
  | cons a as ih =>
    rw [List.cons_append, Scan.each, Scan.each, bind_assoc, ih]

namespace Keeps
variable {K : Scan → Scan → Prop} {ι : Type}

theorem bind (htrans : ∀ s s₁ s₂, K s s₁ → K s₁ s₂ → K s s₂) {x y : ScanStep Unit} (hx : Keeps K x) (hy : Keeps K y) :
    Keeps K (x >>= fun _ => y) := by
  intro s
  obtain ⟨s₁, hrun, hs₁⟩ := hx s
  obtain ⟨s₂, hrun', hs₂⟩ := hy s₁
  exact ⟨s₂, ScanStep.bind_eq_ok_iff.mpr ⟨(), s₁, hrun, hrun'⟩, htrans s s₁ s₂ hs₁ hs₂⟩

theorem each (hrefl : ∀ s, K s s) (htrans : ∀ s s₁ s₂, K s s₁ → K s₁ s₂ → K s s₂) {f : ι → ScanStep Unit}
    {as : List ι} (h : ∀ a ∈ as, Keeps K (f a)) : Keeps K (Scan.each f as) := by
  induction as with
  | nil => exact fun s => ⟨s, rfl, hrefl s⟩
  | cons a as ih =>
    obtain ⟨ha, has⟩ := List.forall_mem_cons.mp h
    exact ha.bind htrans (ih has)

end Keeps

/-- Steps over files of which some are replaced by others, where neither those nor these matter. -/
theorem Follows.each_replaced {R K : Scan → Scan → Prop} {ι : Type} {f g : ι → ScanStep Unit}
    {before old new after : List ι} (hshared : ∀ a ∈ before ++ after, Follows R Done (f a) (g a))
    (hold : Keeps K (Scan.each f old)) (hnew : Keeps K (Scan.each g new))
    (hkeeps : ∀ s s₁ s' s₁', R s s' → K s s₁ → K s' s₁' → R s₁ s₁') :
    Follows R Done (Scan.each f (before ++ old ++ after)) (Scan.each g (before ++ new ++ after)) := by
  obtain ⟨hbefore, hafter⟩ := List.forall_mem_append.mp hshared
  rw [each_append, each_append, each_append, each_append]
  refine Follows.bind (V := Done) (Follows.bind (V := Done) (Follows.each hbefore) fun _ _ _ => ?_) fun _ _ _ => Follows.each hafter
  intro s s' a s₁ hs hrun
  obtain ⟨s₂, hrun', hs₂⟩ := hold s
  obtain ⟨s₁', hrun'', hs₁'⟩ := hnew s'
  obtain rfl : s₂ = s₁ := (Prod.mk.inj (hrun'.symm.trans hrun)).2
  exact ⟨(), s₁', hrun'', trivial, hkeeps s s₂ s' s₁' hs hs₂ hs₁'⟩

/-- The types that files declare. -/
def typeNamesOf (pkg : Package) (files : List File) : List TypeName :=
  files.flatMap fun f => f.decls.filterMap fun
    | .type spec => some (typeNameIn pkg f spec.name)
    | _ => none

/-- The types of the fields that a declaration writes out. -/
def fieldTypes : Source.Decl → List TypeExpr
  | .type spec => match spec.body with
    | .struct fields => fields.map Field.type
    | _ => []
  | _ => []

/-- The types of the annotations of a comment, if it can be read. -/
def annotTypes? (p : Program) (pkg : Package) (f : File) (doc : CommentGroup) : Option (List Bytes) :=
  (annotsOf p { package := pkg, file := f } doc).toOption.map (·.map Annot.type)

/-- A file has its annotations and the types of its fields in common with itself in another package. -/
structure FileAlike (writer : Writer) (p p' : Program) (pkg pkg' : Package) (f : File) : Prop where
  annots : ∀ doc ∈ f.doc.toList ++ fileDocs f, annotTypes? p' pkg' f doc = annotTypes? p pkg f doc
  shapes : ∀ t ∈ f.decls.flatMap fieldTypes,
    writer.type? p' { package := pkg', file := f } t = writer.type? p { package := pkg, file := f } t

/-- The same is known of a type. -/
structure InfoAlike (writer : Writer) (p p' : Program) (i i' : TypeInfo) : Prop where
  annots : i'.annots.map Annot.type = i.annots.map Annot.type
  pos : i'.pos = i.pos
  fields : i'.fields.map (FieldInfo.view writer p') = i.fields.map (FieldInfo.view writer p)

/-- The same is found and known of a package and of the types `own`. -/
structure ScanAlike (writer : Writer) (p p' : Program) (id : String) (own : List TypeName) (s s' : Scan) : Prop where
  found : s'.found.map Found.view = s.found.map Found.view
  declared : ∀ x ∈ s.found, ∀ n, x.type = some n → n ∈ own
  annots : (s'.known.package id).annots.map Annot.type = (s.known.package id).annots.map Annot.type
  pos : (s'.known.package id).pos = (s.known.package id).pos
  types : ∀ n ∈ own, InfoAlike writer p p' (s.known.type n) (s'.known.type n)

/-- The same is found, and the same comments of the present file were looked at. -/
def ScanAlike.InFile (writer : Writer) (p p' : Program) (id : String) (own : List TypeName) (s s' : Scan) : Prop :=
  ScanAlike writer p p' id own s s' ∧ s'.processed = s.processed

section
variable {writer : Writer} {p p' : Program} {id : String} {own : List TypeName} {pkg pkg' : Package} {f : File}

theorem isEmpty_eq_of_types {annots annots' : List SourceAnnot}
    (h : annots'.map Annot.type = annots.map Annot.type) : annots'.isEmpty = annots.isEmpty := by
  have hlength := congrArg List.length h
  rw [List.length_map, List.length_map] at hlength
  rw [Bool.eq_iff_iff, List.isEmpty_iff_length_eq_zero, List.isEmpty_iff_length_eq_zero, hlength]

theorem follows_annots {doc : Option CommentGroup}
    (h : ∀ d ∈ doc, annotTypes? p' pkg' f d = annotTypes? p pkg f d) :
    Follows (ScanAlike.InFile writer p p' id own) (fun a b => b.map Annot.type = a.map Annot.type)
      (Scan.annots p { package := pkg, file := f } doc) (Scan.annots p' { package := pkg', file := f } doc) := by
  cases doc with
  | none => exact .pure rfl
  | some d =>
    refine Follows.bind (V := Done) (.modify fun s s' hs => ⟨{ hs.1 with }, congrArg (d :: ·) hs.2⟩) fun _ _ _ => ?_
    · intro s s' a s₁ hs hrun
      obtain ⟨ha, rfl⟩ := Prod.mk.inj hrun
      have ha : annotsOf p { package := pkg, file := f } d = .ok a := ha
      have htypes := h d rfl
      rw [annotTypes?, annotTypes?, ha] at htypes
      obtain ⟨b, hb, hab⟩ := Option.map_eq_some_iff.mp htypes
      exact ⟨b, s', by rw [ScanStep.run_liftM, toOption_eq_some_iff.mp hb], hab, hs⟩

theorem follows_add {e e' : SourceElement} {n : Option TypeName}
    (hannots : e'.annots.map Annot.type = e.annots.map Annot.type) (hpos : e'.pos = e.pos)
    (hn : ∀ m, n = some m → m ∈ own) :
    Follows (ScanAlike.InFile writer p p' id own) Done (Scan.add e n) (Scan.add e' n) := by
  unfold Scan.add
  rw [isEmpty_eq_of_types hannots]
  split
  · exact .pure trivial
  · refine .modify fun s s' hs => ⟨{ hs.1 with found := ?_, declared := ?_ }, hs.2⟩
    · change (s'.found ++ [_]).map Found.view = (s.found ++ [_]).map Found.view
      rw [List.map_append, List.map_append, hs.1.found]
      simp [Found.view, hpos, hannots]
    · intro x hx m hm
      rcases List.mem_append.mp hx with hx | hx
      · exact hs.1.declared x hx m hm
      · rw [List.mem_singleton.mp hx] at hm
        exact hn m hm

theorem follows_updateType {g g' : TypeInfo → TypeInfo} (n : TypeName)
    (h : ∀ i i', InfoAlike writer p p' i i' → InfoAlike writer p p' (g i) (g' i')) :
    Follows (ScanAlike.InFile writer p p' id own) Done (Scan.know (·.updateType n g)) (Scan.know (·.updateType n g')) := by
  refine .modify fun s s' hs => ⟨{ hs.1 with types := fun m hm => ?_ }, hs.2⟩
  rw [Known.type_updateType, Known.type_updateType]
  split
  · rename_i heq
    exact h _ _ (hs.1.types n (heq ▸ hm))
  · exact hs.1.types m hm

theorem follows_member (e e' : SourceElement) {doc : Option CommentGroup} (ident : Ident)
    (h : ∀ d ∈ doc, annotTypes? p' pkg' f d = annotTypes? p pkg f d) :
    Follows (ScanAlike.InFile writer p p' id own) Done (Scan.member p { package := pkg, file := f } e doc ident)
      (Scan.member p' { package := pkg', file := f } e' doc ident) :=
  (follows_annots h).bind fun _ _ hab => follows_add hab rfl nofun

theorem follows_field (n : TypeName) {fd : Field} (h : ∀ d ∈ fd.doc, annotTypes? p' pkg' f d = annotTypes? p pkg f d)
    (hshape : writer.type? p' { package := pkg', file := f } fd.type =
      writer.type? p { package := pkg, file := f } fd.type) :
    Follows (ScanAlike.InFile writer p p' id own) Done (Scan.field p { package := pkg, file := f } n fd)
      (Scan.field p' { package := pkg', file := f } n fd) := by
  refine (follows_annots h).bind fun a b hab => .each fun ident _ => ?_
  refine Follows.bind (V := Done) ?_ fun _ _ _ => .get_bind fun s s' _ => follows_add hab rfl nofun
  refine follows_updateType n fun i i' hi => { hi with fields := ?_ }
  rw [List.map_append, List.map_append, hi.fields]
  simp [FieldInfo.view, hab, hshape]

theorem follows_item (n : TypeName) {i : InterfaceItem}
    (h : ∀ d ∈ itemDocs i, annotTypes? p' pkg' f d = annotTypes? p pkg f d) :
    Follows (ScanAlike.InFile writer p p' id own) Done (Scan.item p { package := pkg, file := f } n i)
      (Scan.item p' { package := pkg', file := f } n i) := by
  cases i with
  | method doc name sig => exact .get_bind fun s s' _ => follows_member _ _ name fun d hd => h d (by simpa [itemDocs] using hd)
  | embed terms => exact .pure trivial

theorem follows_members (n : TypeName) {body : TypeExpr}
    (h : ∀ d ∈ memberDocs body, annotTypes? p' pkg' f d = annotTypes? p pkg f d)
    (hshapes : ∀ fields, body = .struct fields → ∀ fd ∈ fields,
      writer.type? p' { package := pkg', file := f } fd.type = writer.type? p { package := pkg, file := f } fd.type) :
    Follows (ScanAlike.InFile writer p p' id own) Done (Scan.members p { package := pkg, file := f } n body)
      (Scan.members p' { package := pkg', file := f } n body) := by
  cases body with
  | struct fields =>
    refine .each fun fd hfd => follows_field n (fun d hd => h d ?_) (hshapes fields rfl fd hfd)
    exact List.mem_flatMap.mpr ⟨fd, hfd, by simpa using hd⟩
  | interface items =>
    exact .each fun i hi => follows_item n fun d hd => h d (List.mem_flatMap.mpr ⟨i, hi, hd⟩)
  | _ => exact .pure trivial

theorem follows_type {spec : TypeSpec} (hid : pkg'.id = pkg.id) (hown : typeNameIn pkg f spec.name ∈ own)
    (h : ∀ d ∈ declDocs (.type spec), annotTypes? p' pkg' f d = annotTypes? p pkg f d)
    (hshapes : ∀ t ∈ fieldTypes (.type spec),
      writer.type? p' { package := pkg', file := f } t = writer.type? p { package := pkg, file := f } t) :
    Follows (ScanAlike.InFile writer p p' id own) Done (Scan.type p { package := pkg, file := f } spec)
      (Scan.type p' { package := pkg', file := f } spec) := by
  have hname : typeNameIn pkg' f spec.name = typeNameIn pkg f spec.name := by rw [typeNameIn, hid, typeNameIn]
  have hdoc : ∀ d ∈ spec.doc, annotTypes? p' pkg' f d = annotTypes? p pkg f d := fun d hd =>
    h d (List.mem_append_left _ (by simpa using hd))
  have hmembers : ∀ d ∈ memberDocs spec.body, annotTypes? p' pkg' f d = annotTypes? p pkg f d := fun d hd =>
    h d (List.mem_append_right _ hd)
  unfold Scan.type
  dsimp only
  rw [hname]
  refine Follows.bind (V := Done) (follows_updateType _ fun i i' hi => { hi with pos := rfl }) fun _ _ _ => ?_
  refine (follows_annots hdoc).bind fun a b hab => ?_
  rw [isEmpty_eq_of_types hab]
  split
  · intro s s' c s₁ _ hrun
    cases hrun
  · refine Follows.bind (V := Done) (follows_updateType _ fun i i' hi => { hi with annots := hab }) fun _ _ _ => ?_
    refine Follows.bind (follows_members _ hmembers fun fields hbody fd hfd => hshapes _ ?_) fun _ _ _ => ?_
    · simp only [fieldTypes, hbody]
      exact List.mem_map_of_mem hfd
    · intro s s' c s₁ hs hrun
      have htype := hs.1.types _ hown
      refine follows_add ?_ ?_ (fun m hm => Option.some.inj hm ▸ hown) s s' c s₁ hs hrun
      · exact htype.annots
      · exact congrArg some htype.pos

theorem follows_decl {d : Source.Decl} (hid : pkg'.id = pkg.id)
    (hown : ∀ spec, d = .type spec → typeNameIn pkg f spec.name ∈ own)
    (h : ∀ doc ∈ declDocs d, annotTypes? p' pkg' f doc = annotTypes? p pkg f doc)
    (hshapes : ∀ t ∈ fieldTypes d,
      writer.type? p' { package := pkg', file := f } t = writer.type? p { package := pkg, file := f } t) :
    Follows (ScanAlike.InFile writer p p' id own) Done (Scan.decl p { package := pkg, file := f } d)
      (Scan.decl p' { package := pkg', file := f } d) := by
  refine .get_bind fun s s' _ => ?_
  cases d with
  | type spec => exact follows_type hid (hown spec rfl) h hshapes
  | const spec | var spec =>
    refine .each fun ident hident => follows_member _ _ ident fun doc hdoc => h doc ?_
    exact List.mem_flatMap.mpr ⟨ident, hident, by simpa using hdoc⟩
  | func spec => exact follows_member _ _ spec.name fun doc hdoc => h doc (by simpa [declDocs] using hdoc)

/-- A file that stays is read as before. -/
theorem follows_file (hid : pkg'.id = pkg.id) (hown : ∀ n ∈ typeNamesOf pkg [f], n ∈ own)
    (h : FileAlike writer p p' pkg pkg' f) :
    Follows (ScanAlike writer p p' id own) Done (Scan.file p pkg f) (Scan.file p' pkg' f) := by
  have hdecls : Follows (ScanAlike.InFile writer p p' id own) Done
      (Scan.each (Scan.decl p { package := pkg, file := f }) f.decls)
      (Scan.each (Scan.decl p' { package := pkg', file := f }) f.decls) := by
    refine .each fun d hd => follows_decl hid (fun spec hspec => hown _ ?_) (fun doc hdoc => h.annots doc ?_)
      fun t ht => h.shapes t (List.mem_flatMap.mpr ⟨d, hd, ht⟩)
    · simp only [typeNamesOf, List.mem_flatMap, List.mem_singleton, exists_eq_left, List.mem_filterMap]
      exact ⟨d, hd, by rw [hspec]⟩
    · exact List.mem_append_right _ (List.mem_flatMap.mpr ⟨d, hd, hdoc⟩)
  intro s s' a s₂ hs hrun
  obtain ⟨hrun, hplaces⟩ := ScanStep.run_file hrun
  obtain ⟨_, s₂', hrun', -, hs₂⟩ := hdecls { s with processed := [] } { s' with processed := [] } () s₂
    ⟨{ hs with }, rfl⟩ hrun
  refine ⟨(), s₂', ?_, trivial, hs₂.1⟩
  -- The same comments were looked at, so none of the others is annotated.
  have hnone : ((f.docs.filter (!s₂'.processed.contains ·)).findSome? (findAnnotPlace? f.path)) = none := by
    refine List.findSome?_eq_none_iff.mpr fun doc hdoc => ?_
    obtain ⟨hmem, hnew⟩ := List.mem_filter.mp hdoc
    refine Option.not_isSome_iff_eq_none.mp fun hsome => ?_
    have hseen := hplaces doc hmem hsome
    rw [← hs₂.2] at hseen
    simp [hseen] at hnew
  refine ScanStep.bind_eq_ok_iff.mpr ⟨(), { s' with processed := [] }, rfl, ?_⟩
  refine ScanStep.bind_eq_ok_iff.mpr ⟨(), s₂', hrun', ?_⟩
  rw [ScanStep.run_get_bind]
  dsimp only
  rw [hnone]
  rfl

theorem follows_packageDoc (h : ∀ d ∈ f.doc, annotTypes? p' pkg' f d = annotTypes? p pkg f d)
    (hid : pkg'.id = pkg.id) :
    Follows (ScanAlike.InFile writer p p' pkg.id own) Done (Scan.packageDoc p pkg f) (Scan.packageDoc p' pkg' f) := by
  refine (follows_annots h).bind fun a b hab => ?_
  dsimp only
  rw [hid, isEmpty_eq_of_types hab]
  refine .modify fun s s' hs => ⟨{ hs.1 with annots := ?_, pos := ?_ }, hs.2⟩
  · rw [Known.package_updatePackage, Known.package_updatePackage, List.map_append, List.map_append, hs.1.annots, hab]
  · rw [Known.package_updatePackage, Known.package_updatePackage, hs.1.pos, isEmpty_eq_of_types hs.1.annots]

end

/-- A file without comments that document anything. -/
structure IsUncommented (f : File) : Prop where
  doc : f.doc = none
  docs : f.docs = []
  decls : fileDocs f = []

/-- Nothing more is found or known of a package and of the types `own`. -/
structure ScanKept (id : String) (own : List TypeName) (s s₁ : Scan) : Prop where
  listing : s₁.listing = s.listing
  package : s₁.known.package id = s.known.package id
  types : ∀ n ∈ own, s₁.known.type n = s.known.type n

/-- Nothing more is found, and what becomes known is of the type `n`, but no annotations of it. -/
structure MembersKnown (n : TypeName) (s s₁ : Scan) : Prop where
  listing : s₁.listing = s.listing
  packages : s₁.known.packages = s.known.packages
  types : ∀ m, m ≠ n → s₁.known.type m = s.known.type m
  annots : (s₁.known.type n).annots = (s.known.type n).annots

theorem ScanKept.refl {id : String} {own : List TypeName} (s : Scan) : ScanKept id own s s := ⟨rfl, rfl, fun _ _ => rfl⟩

theorem ScanKept.trans {id : String} {own : List TypeName} (s s₁ s₂ : Scan) (h : ScanKept id own s s₁)
    (h' : ScanKept id own s₁ s₂) : ScanKept id own s s₂ :=
  ⟨h'.listing.trans h.listing, h'.package.trans h.package, fun n hn => (h'.types n hn).trans (h.types n hn)⟩

theorem MembersKnown.refl {n : TypeName} (s : Scan) : MembersKnown n s s := ⟨rfl, rfl, fun _ _ => rfl, rfl⟩

theorem MembersKnown.trans {n : TypeName} (s s₁ s₂ : Scan) (h : MembersKnown n s s₁) (h' : MembersKnown n s₁ s₂) :
    MembersKnown n s s₂ :=
  ⟨h'.listing.trans h.listing, h'.packages.trans h.packages, fun m hm => (h'.types m hm).trans (h.types m hm),
    h'.annots.trans h.annots⟩

section
variable {p : Program} {scope : Scope} {id : String} {own : List TypeName} {pkg : Package} {f : File}

theorem add_of_nil {e : SourceElement} (n : Option TypeName) (h : e.annots = []) : Scan.add e n = pure () := by
  rw [Scan.add, h]
  rfl

theorem member_none (e : SourceElement) (ident : Ident) : Scan.member p scope e none ident = pure () := by
  rw [Scan.member, Scan.annots, pure_bind]
  exact add_of_nil none rfl

theorem keeps_field (n : TypeName) {fd : Field} (h : fd.doc = none) :
    Keeps (MembersKnown n) (Scan.field p scope n fd) := by
  rw [Scan.field, h, Scan.annots, pure_bind]
  refine .each .refl .trans fun ident _ s => ⟨_, rfl, rfl, rfl, fun m hm => ?_, ?_⟩
  · rw [Known.type_updateType, if_neg hm]
  · rw [Known.type_updateType, if_pos rfl]

theorem keeps_members (n : TypeName) {body : TypeExpr} (h : memberDocs body = []) :
    Keeps (MembersKnown n) (Scan.members p scope n body) := by
  have hpure : Keeps (MembersKnown n) (pure ()) := fun s => ⟨s, rfl, .refl s⟩
  cases body with
  | struct fields =>
    refine .each .refl .trans fun fd hfd => keeps_field n ?_
    simpa using List.flatMap_eq_nil_iff.mp h fd hfd
  | interface items =>
    refine .each .refl .trans fun i hi => ?_
    have hi := List.flatMap_eq_nil_iff.mp h i hi
    cases i with
    | method doc name sig =>
      obtain rfl : doc = none := by simpa [itemDocs] using hi
      exact fun s => ⟨s, by rw [Scan.item, ScanStep.run_get_bind, member_none]; rfl, .refl s⟩
    | embed terms => exact hpure
  | _ => exact hpure

/-- The members of a type and the type itself, once it is known that the type has no annotations. -/
theorem keeps_type_rest {n : TypeName} (hown : n ∉ own) {body : TypeExpr} (h : memberDocs body = []) {s : Scan} {k : Known}
    (hpackages : k.packages = s.known.packages) (htypes : ∀ m, m ≠ n → k.type m = s.known.type m)
    (hannots : (k.type n).annots = []) :
    ∃ s₁, (do
      Scan.members p scope n body
      Scan.add (typeElement p (← get).known n) (some n) : ScanStep Unit).run { s with known := k } = (.ok (), s₁) ∧
      ScanKept id own s s₁ := by
  have hmembers : Keeps (MembersKnown n) (Scan.members p scope n body) := keeps_members n h
  obtain ⟨s₁, hrun, hknown⟩ := hmembers { s with known := k }
  refine ⟨s₁, ScanStep.bind_eq_ok_iff.mpr ⟨(), s₁, hrun, ?_⟩, hknown.listing, ?_, fun m hm => ?_⟩
  · have hnone : (typeElement p s₁.known n).annots = [] := hknown.annots.trans hannots
    rw [ScanStep.run_get_bind, add_of_nil (some n) hnone]
    rfl
  · rw [Known.package, hknown.packages, hpackages, Known.package]
  · have hne : m ≠ n := fun heq => hown (heq ▸ hm)
    exact (hknown.types m hne).trans (htypes m hne)

theorem keeps_type {spec : TypeSpec} (hown : typeNameIn pkg f spec.name ∉ own) (h : declDocs (.type spec) = []) :
    Keeps (ScanKept id own) (Scan.type p { package := pkg, file := f } spec) := by
  obtain ⟨hdoc, hmembers⟩ := List.append_eq_nil_iff.mp h
  have hdoc : spec.doc = none := by simpa using hdoc
  intro s
  unfold Scan.type
  dsimp only
  rw [hdoc, Scan.annots, pure_bind]
  simp only [ScanStep.run_know_bind, List.isEmpty_nil, Bool.not_true, Bool.false_and, Bool.false_eq_true, if_false]
  refine keeps_type_rest hown hmembers rfl (fun m hm => ?_) ?_
  · rw [Known.type_updateType, if_neg hm, Known.type_updateType, if_neg hm]
  · rw [Known.type_updateType, if_pos rfl]

theorem keeps_decl {d : Source.Decl} (hown : ∀ spec, d = .type spec → typeNameIn pkg f spec.name ∉ own)
    (h : declDocs d = []) : Keeps (ScanKept id own) (Scan.decl p { package := pkg, file := f } d) := by
  intro s
  rw [Scan.decl, ScanStep.run_get_bind]
  have hnames (e : SourceElement) {doc : Option CommentGroup} {names : List Ident}
      (hdoc : (names.flatMap fun _ => doc.toList) = []) :
      Keeps (ScanKept id own) (Scan.each (Scan.member p { package := pkg, file := f } e doc) names) := by
    refine .each .refl .trans fun ident hident s => ⟨s, ?_, .refl s⟩
    obtain rfl : doc = none := by simpa using List.flatMap_eq_nil_iff.mp hdoc ident hident
    rw [member_none]
    rfl
  cases d with
  | type spec => exact keeps_type (hown spec rfl) h s
  | const spec | var spec => exact hnames _ h s
  | func spec =>
    have hdoc : spec.doc = none := by simpa [declDocs] using h
    refine ⟨s, ?_, .refl s⟩
    dsimp only
    rw [hdoc, member_none]
    rfl

theorem keeps_file (hown : ∀ n ∈ typeNamesOf pkg [f], n ∉ own) (h : IsUncommented f) :
    Keeps (ScanKept id own) (Scan.file p pkg f) := by
  intro s
  have hdecls : Keeps (ScanKept id own) (Scan.each (Scan.decl p { package := pkg, file := f }) f.decls) := by
    refine .each .refl .trans fun d hd => keeps_decl (fun spec hspec => hown _ ?_) (List.flatMap_eq_nil_iff.mp h.decls d hd)
    simp only [typeNamesOf, List.mem_flatMap, List.mem_singleton, exists_eq_left, List.mem_filterMap]
    exact ⟨d, hd, by rw [hspec]⟩
  obtain ⟨s₁, hrun, hkept⟩ := hdecls { s with processed := [] }
  refine ⟨s₁, ?_, hkept.listing, hkept.package, hkept.types⟩
  refine ScanStep.bind_eq_ok_iff.mpr ⟨(), { s with processed := [] }, rfl, ?_⟩
  refine ScanStep.bind_eq_ok_iff.mpr ⟨(), s₁, hrun, ?_⟩
  rw [ScanStep.run_get_bind, h.docs]
  rfl

theorem keeps_packageDoc (h : f.doc = none) :
    Keeps (fun s s₁ => ScanKept pkg.id own s s₁ ∧ s₁.processed = s.processed) (Scan.packageDoc p pkg f) := by
  intro s
  rw [Scan.packageDoc, h, Scan.annots, pure_bind]
  refine ⟨_, rfl, ⟨rfl, ?_, fun _ _ => rfl⟩, rfl⟩
  rw [Known.package_updatePackage]
  simp

end

/-- A type looks the same in two programs, and the same is known of it. -/
structure LooksAlike (writer : Writer) (p p' : Program) (k k' : Known) (n : TypeName) : Prop where
  kind : kindOf p' n = kindOf p n
  isStruct : (body p' p'.fuel (p'.typeOf n)).isStruct = (body p p.fuel (p.typeOf n)).isStruct
  isGeneric : p'.isGeneric n = p.isGeneric n
  pos : (k'.type n).pos = (k.type n).pos
  fields : (k'.type n).fields.map (FieldInfo.view writer p') = (k.type n).fields.map (FieldInfo.view writer p)

/-- Files stay when copies of a generated file are replaced. The copies have no comments, and stand at other paths than
the files that stay. These have the annotations and the types of fields that they had, and what they declare are the
kinds of types that they were. -/
structure FilesStay (name : String) (writer : Writer) (p p' : Program) (pkg pkg' : Package)
    (before old new after : List File) : Prop where
  package : Refreshed name pkg pkg'
  files : pkg.files = before ++ old ++ after
  files' : pkg'.files = before ++ new ++ after
  paths : ∀ f ∈ before ++ after, ∀ g ∈ old ++ new, f.path ≠ g.path
  uncommented : ∀ g ∈ old ++ new, IsUncommented g
  read : ∀ f ∈ before ++ after, FileAlike writer p p' pkg pkg' f
  types : ∀ n ∈ typeNamesOf pkg (before ++ after), kindOf p' n = kindOf p n ∧
    (body p' p'.fuel (p'.typeOf n)).isStruct = (body p p.fuel (p.typeOf n)).isStruct ∧ p'.isGeneric n = p.isGeneric n

section
variable {name : String} {writer : Writer} {p p' : Program} {pkg pkg' : Package} {before old new after : List File}

theorem mem_typeNamesOf {files : List File} {n : TypeName} :
    n ∈ typeNamesOf pkg files ↔ ∃ f ∈ files, ∃ spec, .type spec ∈ f.decls ∧ typeNameIn pkg f spec.name = n := by
  simp only [typeNamesOf, List.mem_flatMap, List.mem_filterMap]
  refine exists_congr fun f => and_congr_right fun _ => ⟨?_, fun ⟨spec, hspec, hn⟩ => ⟨_, hspec, congrArg some hn⟩⟩
  rintro ⟨d, hd, hn⟩
  cases d with
  | type spec => exact ⟨spec, hd, Option.some.inj hn⟩
  | const | var | func => cases hn

theorem mem_names_objectsOf {files : List File} {f : File} (hf : f ∈ files) {spec : TypeSpec}
    (hspec : .type spec ∈ f.decls) (hname : spec.name.name ≠ "_") :
    spec.name.name ∈ (objectsOf files).map Object.name := by
  refine List.mem_map.mpr ⟨⟨.type, spec.name.name, spec.name.spot.inFile f.path⟩, ?_, rfl⟩
  refine List.mem_flatMap.mpr ⟨f, hf, List.mem_filter.mpr ⟨List.mem_flatMap.mpr ⟨_, hspec, ?_⟩, by simpa using hname⟩⟩
  exact List.mem_singleton_self _

/-- Of types with the same name in a package, one stands in another file only if both names are blank. -/
theorem typeNameIn_ne {copies : List File} (hunique : ((objectsOf (before ++ copies ++ after)).map Object.name).Nodup)
    {f g : File} (hf : f ∈ before ++ after) (hg : g ∈ copies) (hpath : f.path ≠ g.path) {spec spec' : TypeSpec}
    (hspec : .type spec ∈ f.decls) (hspec' : .type spec' ∈ g.decls) :
    typeNameIn pkg f spec.name ≠ typeNameIn pkg g spec'.name := by
  intro heq
  have hname : spec.name.name = spec'.name.name := congrArg TypeName.name heq
  by_cases hblank : spec.name.name = "_"
  · have hsite := congrArg TypeName.site heq
    simp only [typeNameIn, if_pos hblank, if_pos (hname ▸ hblank), Option.some.injEq, Prod.mk.injEq] at hsite
    exact hpath hsite.1
  · have hcopy := mem_names_objectsOf hg hspec' (hname ▸ hblank)
    simp only [objectsOf, List.flatMap_append, List.map_append, List.nodup_append] at hunique
    obtain ⟨⟨-, -, hbefore⟩, -, hafter⟩ := hunique
    rcases List.mem_append.mp hf with hf | hf
    · exact hbefore _ (mem_names_objectsOf hf hspec hblank) _ hcopy hname
    · exact hafter _ (List.mem_append_right _ hcopy) _ (mem_names_objectsOf hf hspec hblank) hname.symm

theorem FilesStay.notMem (h : FilesStay name writer p p' pkg pkg' before old new after) {g : File} (hg : g ∈ old ++ new) :
    ∀ n ∈ typeNamesOf pkg [g], n ∉ typeNamesOf pkg (before ++ after) := by
  intro n hn hmem
  obtain ⟨g', hg', spec', hspec', rfl⟩ := mem_typeNamesOf.mp hn
  obtain rfl := List.mem_singleton.mp hg'
  obtain ⟨f, hf, spec, hspec, heq⟩ := mem_typeNamesOf.mp hmem
  rcases List.mem_append.mp hg with hold | hnew
  · exact typeNameIn_ne (h.files ▸ h.package.unique) hf hold (h.paths f hf g' hg) hspec hspec' heq
  · exact typeNameIn_ne (h.files' ▸ h.package.unique') hf hnew (h.paths f hf g' hg) hspec hspec' heq

theorem ScanAlike.kept {id : String} {own : List TypeName} {s s₁ s' s₁' : Scan} (h : ScanAlike writer p p' id own s s')
    (hs : ScanKept id own s s₁) (hs' : ScanKept id own s' s₁') : ScanAlike writer p p' id own s₁ s₁' where
  found := by rw [Scan.found, Scan.found, hs.listing, hs'.listing]; exact h.found
  declared := by rw [Scan.found, hs.listing]; exact h.declared
  annots := by rw [hs.package, hs'.package, h.annots]
  pos := by rw [hs.package, hs'.package, h.pos]
  types n hn := by rw [hs.types n hn, hs'.types n hn]; exact h.types n hn

/-- The comments of packages. -/
theorem FilesStay.follows_packageDocs (h : FilesStay name writer p p' pkg pkg' before old new after) {own : List TypeName} :
    Follows (ScanAlike.InFile writer p p' pkg.id own) Done (Scan.each (Scan.packageDoc p pkg) pkg.files)
      (Scan.each (Scan.packageDoc p' pkg') pkg'.files) := by
  have hid : pkg'.id = pkg.id := h.package.id_eq
  obtain ⟨hold, hnew⟩ := List.forall_mem_append.mp h.uncommented
  have hdoc (f : File) (hf : f ∈ before ++ after) (d : CommentGroup) (hd : d ∈ f.doc) :
      annotTypes? p' pkg' f d = annotTypes? p pkg f d :=
    (h.read f hf).annots d (List.mem_append_left _ (by simpa using hd))
  have hrefl (s : Scan) : ScanKept pkg.id own s s ∧ s.processed = s.processed := ⟨.refl s, rfl⟩
  have htrans (s s₁ s₂ : Scan) (hs : ScanKept pkg.id own s s₁ ∧ s₁.processed = s.processed)
      (hs₁ : ScanKept pkg.id own s₁ s₂ ∧ s₂.processed = s₁.processed) :
      ScanKept pkg.id own s s₂ ∧ s₂.processed = s.processed :=
    ⟨hs.1.trans _ _ _ hs₁.1, hs₁.2.trans hs.2⟩
  rw [h.files, h.files']
  refine Follows.each_replaced (fun f hf => follows_packageDoc (hdoc f hf) hid)
    (.each hrefl htrans fun g hg => keeps_packageDoc (hold g hg).doc)
    (.each hrefl htrans fun g hg => hid ▸ keeps_packageDoc (hnew g hg).doc)
    fun s s₁ s' s₁' hs hs₁ hs₁' => ⟨hs.1.kept hs₁.1 hs₁'.1, ?_⟩
  rw [hs₁.2, hs₁'.2, hs.2]

theorem FilesStay.follows_files (h : FilesStay name writer p p' pkg pkg' before old new after) :
    Follows (ScanAlike writer p p' pkg.id (typeNamesOf pkg (before ++ after))) Done
      (Scan.each (Scan.file p pkg) pkg.files) (Scan.each (Scan.file p' pkg') pkg'.files) := by
  have hid : pkg'.id = pkg.id := h.package.id_eq
  have hnames (files : List File) : typeNamesOf pkg' files = typeNamesOf pkg files := by
    simp only [typeNamesOf, typeNameIn, hid]
  obtain ⟨hold, hnew⟩ := List.forall_mem_append.mp h.uncommented
  rw [h.files, h.files']
  refine Follows.each_replaced (fun f hf => follows_file hid (fun n hn => ?_) (h.read f hf))
    (.each .refl .trans fun g hg => keeps_file (h.notMem (List.mem_append_left _ hg)) (hold g hg))
    (.each .refl .trans fun g hg => keeps_file ?_ (hnew g hg)) fun s s₁ s' s₁' hs hs₁ hs₁' => hs.kept hs₁ hs₁'
  · obtain ⟨f', hf', hspec⟩ := mem_typeNamesOf.mp hn
    exact mem_typeNamesOf.mpr ⟨f', List.mem_singleton.mp hf' ▸ hf, hspec⟩
  · rw [hnames]
    exact h.notMem (List.mem_append_right _ hg)

/-- A package with copies of a generated file replaced is read as it was before: the same is found in it, and the types
that carry annotations look the same. -/
theorem FilesStay.scan (h : FilesStay name writer p p' pkg pkg' before old new after) {found : List Found} {known : Known}
    (hscan : scan p pkg {} = (.ok found, known)) :
    ∃ found' known', scan p' pkg' {} = (.ok found', known') ∧ found'.map Found.view = found.map Found.view ∧
      ∀ n ∈ found.filterMap Found.type, LooksAlike writer p p' known known' n := by
  rw [scan_eq_run] at hscan
  split at hscan
  · rename_i s hs
    obtain ⟨rfl, rfl⟩ : s.found = found ∧ s.known = known := by simpa using hscan
    obtain ⟨s₁, s₂, hdocs, hadd, hfiles⟩ := ScanStep.run_package hs
    have hstart : ScanAlike.InFile writer p p' pkg.id (typeNamesOf pkg (before ++ after)) { known := {} } { known := {} } :=
      ⟨⟨rfl, fun x hx => absurd hx List.not_mem_nil, rfl, rfl, fun n _ => ⟨rfl, rfl, rfl⟩⟩, rfl⟩
    obtain ⟨_, s₁', hdocs', -, halike₁⟩ := h.follows_packageDocs _ _ () s₁ hstart hdocs
    have hadds : Follows (ScanAlike.InFile writer p p' pkg.id (typeNamesOf pkg (before ++ after))) Done
        (Scan.add (packageElement p s₁.known pkg.id) none) (Scan.add (packageElement p' s₁'.known pkg.id) none) :=
      follows_add halike₁.1.annots (congrArg some halike₁.1.pos) nofun
    obtain ⟨_, s₂', hadd', -, halike₂⟩ := hadds s₁ s₁' () s₂ halike₁ hadd
    obtain ⟨_, s', hfiles', -, halike⟩ := h.follows_files s₂ s₂' () s halike₂.1 hfiles
    have hrun : (Scan.package p' pkg').run { known := {} } = (.ok (), s') := by
      rw [← h.package.id_eq] at hadd'
      rw [Scan.package]
      refine ScanStep.bind_eq_ok_iff.mpr ⟨(), s₁', hdocs', ?_⟩
      rw [ScanStep.run_get_bind]
      exact ScanStep.bind_eq_ok_iff.mpr ⟨(), s₂', hadd', hfiles'⟩
    refine ⟨s'.found, s'.known, by rw [scan_eq_run, hrun], halike.found, fun n hn => ?_⟩
    obtain ⟨x, hx, hxn⟩ := List.mem_filterMap.mp hn
    have hown := halike.declared x hx n hxn
    obtain ⟨hkind, hstruct, hgeneric⟩ := h.types n hown
    have hinfo := halike.types n hown
    exact ⟨hkind, hstruct, hgeneric, hinfo.pos, hinfo.fields⟩
  · cases hscan

end

end ServiceAnnotations.Processing
