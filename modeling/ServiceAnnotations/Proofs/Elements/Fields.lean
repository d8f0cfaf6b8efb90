import ServiceAnnotations.Proofs.Elements.Scan
import ServiceAnnotations.Proofs.Types.Lookup
import ServiceAnnotations.Types.Settle

/-! # The fields that are known of a type

A scan lists the fields of a struct that is written in the declaration of a type, one for each name. They are those of
the underlying type, in the same order. A type that is declared by way of another one has no fields here, even if it
is a struct. -/
namespace ServiceAnnotations.Elements
open Registry Source ServiceAnnotations.Types

/-- The fields that one line of a struct declares: one for each name, or an embedded one. -/
def fieldInfos (p : Program) (scope : Scope) (f : Field) : List FieldInfo :=
  (Scan.fieldIdents f).map fun id =>
    ⟨id.name, id.spot.inFile scope.file.path, docAnnots p scope f.doc, f.type, scope⟩

def writtenFields (p : Program) (scope : Scope) : TypeExpr → List FieldInfo
  | .struct fields => fields.flatMap (fieldInfos p scope)
  | _ => []

/-- The fields of a type in its declaration. -/
def declaredFields (p : Program) (d : DeclaredType) : List FieldInfo :=
  writtenFields p { package := d.package, file := d.file } d.spec.body

def ReadsFields (p : Program) (scope : Scope) (e : TypeExpr) : Prop :=
  ∀ fields, e = .struct fields → ∀ f ∈ fields, ∀ doc ∈ f.doc, annotsOf p scope doc = .ok (docAnnots p scope f.doc)

/-- A type in a declaration has been read: the comments of its fields can be read, and it is found if it has
annotations. -/
structure ReadsType (p : Program) (scope : Scope) (spec : TypeSpec) (s : Scan) : Prop where
  fields : ReadsFields p scope spec.body
  found : docAnnots p scope spec.doc ≠ [] →
    ∃ e ∈ s.found, e.type = some (typeNameIn scope.package scope.file spec.name) ∧
      e.element.annots = docAnnots p scope spec.doc

/-- What a part of a scan adds to the fields of a type. Those with annotations are found as elements within the type. -/
structure Lists (p : Program) (n : TypeName) (infos : List FieldInfo) (s s' : Scan) : Prop where
  fields : (s'.known.type n).fields = (s.known.type n).fields ++ infos
  kept : ∀ e ∈ s.found, e ∈ s'.found
  elements : ∀ i ∈ infos, i.annots ≠ [] →
    ∃ k, ⟨memberElement (typeElement p k n) i.name i.pos i.annots, none⟩ ∈ s'.found

section
variable {p : Program} {n : TypeName} {infos infos' : List FieldInfo} {s s₁ s₂ s' : Scan} {scope : Scope}

theorem Lists.none (hfields : (s'.known.type n).fields = (s.known.type n).fields)
    (hkept : ∀ e ∈ s.found, e ∈ s'.found) : Lists p n [] s s' :=
  ⟨by rw [hfields, List.append_nil], hkept, by simp⟩

theorem Lists.trans (h₁ : Lists p n infos s s₁) (h₂ : Lists p n infos' s₁ s₂) : Lists p n (infos ++ infos') s s₂ where
  fields := by rw [h₂.fields, h₁.fields, List.append_assoc]
  kept e he := h₂.kept e (h₁.kept e he)
  elements i hi hannots := by
    rcases List.mem_append.mp hi with hi | hi
    · obtain ⟨k, hk⟩ := h₁.elements i hi hannots
      exact ⟨k, h₂.kept _ hk⟩
    · exact h₂.elements i hi hannots

theorem lists_each {α : Type} {f : α → ScanStep Unit} {g : α → List FieldInfo}
    (hf : ∀ {a s s'}, (f a).run s = (.ok (), s') → Lists p n (g a) s s') {as : List α}
    (h : (Scan.each f as).run s = (.ok (), s')) : Lists p n (as.flatMap g) s s' :=
  ScanStep.run_each (R := fun as s s' => Lists p n (as.flatMap g) s s') (fun _ => .none rfl fun _ he => he)
    (fun ha has => (hf ha).trans has) h

/-- What each step of a loop brings about holds after the loop, if it stays true when more is found. -/
theorem forall_of_each {α : Type} {f : α → ScanStep Unit} {P : α → Scan → Prop}
    (hP : ∀ {a s s'}, (∀ e ∈ s.found, e ∈ s'.found) → P a s → P a s')
    (hf : ∀ {a s s'}, (f a).run s = (.ok (), s') → (∀ e ∈ s.found, e ∈ s'.found) ∧ P a s') {as : List α}
    (h : (Scan.each f as).run s = (.ok (), s')) : ∀ a ∈ as, P a s' := by
  refine (ScanStep.run_each (R := fun as s s' => (∀ e ∈ s.found, e ∈ s'.found) ∧ ∀ a ∈ as, P a s') ?_ ?_ h).2
  · exact fun _ => ⟨fun _ he => he, by simp⟩
  · intro a as s s₁ s' ha has
    obtain ⟨hkept, hpa⟩ := hf ha
    exact ⟨fun e he => has.1 e (hkept e he), List.forall_mem_cons.mpr ⟨hP has.1 hpa, has.2⟩⟩

theorem ReadsType.mono {spec : TypeSpec} (hkept : ∀ e ∈ s.found, e ∈ s'.found) (h : ReadsType p scope spec s) :
    ReadsType p scope spec s' := by
  refine ⟨h.fields, fun hannots => ?_⟩
  obtain ⟨e, he, htype⟩ := h.found hannots
  exact ⟨e, hkept e he, htype⟩

theorem field_lists {m : TypeName} {f : Field} (h : (Scan.field p scope m f).run s = (.ok (), s')) :
    Lists p n (if m = n then fieldInfos p scope f else []) s s' ∧
      ∀ doc ∈ f.doc, annotsOf p scope doc = .ok (docAnnots p scope f.doc) := by
  obtain ⟨hread, hnames⟩ := ScanStep.run_field h
  refine ⟨?_, hread⟩
  -- each name adds one field to its own type, and none to others
  let info (id : Ident) : FieldInfo := ⟨id.name, id.spot.inFile scope.file.path, docAnnots p scope f.doc, f.type, scope⟩
  have hlists : Lists p n ((Scan.fieldIdents f).flatMap fun id => if m = n then [info id] else [])
      (s.looked f.doc) s' := by
    refine lists_each ?_ hnames
    intro id s s' hid
    obtain ⟨k, rfl, hadd⟩ := ScanStep.run_addField hid
    obtain ⟨hknown, -, hkept⟩ := ScanStep.run_add_keeps hadd
    refine ⟨?_, hkept, ?_⟩
    · rw [hknown, Known.type_updateType]
      by_cases hm : m = n
      · rw [if_pos hm.symm, if_pos hm, hm]
      · rw [if_neg (Ne.symm hm), if_neg hm, List.append_nil]
    · intro i hi hannots
      by_cases hm : m = n
      · subst hm
        rw [if_pos rfl] at hi
        obtain rfl := List.mem_singleton.mp hi
        exact ⟨_, ScanStep.mem_found_of_add hadd hannots⟩
      · simp [if_neg hm] at hi
  have hinfos : ((Scan.fieldIdents f).flatMap fun id => if m = n then [info id] else []) =
      if m = n then fieldInfos p scope f else [] := by
    by_cases hm : m = n
    · simp only [if_pos hm]
      exact (List.map_eq_flatMap).symm
    · simp [if_neg hm]
  rw [← hinfos]
  exact ⟨hlists.fields, hlists.kept, hlists.elements⟩

theorem flatMap_if {α : Type} {q : Prop} [Decidable q] (g : α → List FieldInfo) (as : List α) :
    (as.flatMap fun a => if q then g a else []) = if q then as.flatMap g else [] := by
  by_cases hq : q <;> simp [hq]

theorem member_lists {enclosing : SourceElement} {doc : Option CommentGroup} {id : Ident}
    (h : (Scan.member p scope enclosing doc id).run s = (.ok (), s')) : Lists p n [] s s' := by
  obtain ⟨hcovers, hknown⟩ := member_covers h
  exact .none (by rw [hknown]) hcovers.kept

theorem item_lists {m : TypeName} {i : InterfaceItem} (h : (Scan.item p scope m i).run s = (.ok (), s')) :
    Lists p n [] s s' := by
  obtain ⟨doc, name, sig, rfl, hmember⟩ | ⟨terms, rfl, rfl⟩ := ScanStep.run_item h
  · exact member_lists hmember
  · exact .none rfl fun _ he => he

theorem members_lists {m : TypeName} {e : TypeExpr} (h : (Scan.members p scope m e).run s = (.ok (), s')) :
    Lists p n (if m = n then writtenFields p scope e else []) s s' ∧ ReadsFields p scope e := by
  unfold Scan.members at h
  split at h
  · rename_i fields
    have hlists := lists_each (fun hf => (field_lists (n := n) hf).1) h
    rw [flatMap_if] at hlists
    refine ⟨hlists, ?_⟩
    rintro _ ⟨⟩
    exact forall_of_each (P := fun f _ => ∀ doc ∈ f.doc, annotsOf p scope doc = .ok (docAnnots p scope f.doc))
      (fun _ hread => hread) (fun hf => ⟨(field_lists (n := n) hf).1.kept, (field_lists (n := n) hf).2⟩) h
  · have hlists := lists_each (item_lists (n := n)) h
    rw [List.flatMap_eq_nil_iff.mpr fun _ _ => rfl] at hlists
    exact ⟨by simpa [writtenFields] using hlists, nofun⟩
  · rename_i hstruct hinterface
    obtain ⟨-, rfl⟩ := Prod.mk.inj h
    have hnone : writtenFields p scope e = [] := by
      unfold writtenFields
      split
      · exact absurd rfl (hstruct _)
      · rfl
    rw [hnone, ite_self]
    exact ⟨.none rfl fun _ he => he, fun fields he => absurd he (hstruct fields)⟩

theorem type_lists {spec : TypeSpec} (h : (Scan.type p scope spec).run s = (.ok (), s')) :
    Lists p n (if typeNameIn scope.package scope.file spec.name = n then writtenFields p scope spec.body else []) s s' ∧
      ReadsType p scope spec s' := by
  obtain ⟨-, -, s₁, hmembers, hadd⟩ := ScanStep.run_type h
  obtain ⟨hlists, hreads⟩ := members_lists (n := n) hmembers
  obtain ⟨hknown, -, hkept⟩ := ScanStep.run_add_keeps hadd
  refine ⟨⟨?_, fun e he => hkept e (hlists.kept e he), fun i hi hannots => ?_⟩, hreads, fun hne => ?_⟩
  · -- what becomes known before the members leaves fields as they are
    rw [hknown, hlists.fields, Scan.type_typeKnown]
    split <;> rfl
  · obtain ⟨k, hk⟩ := hlists.elements i hi hannots
    exact ⟨k, hkept _ hk⟩
  · have hannots := annots_typeElement hmembers
    exact ⟨_, ScanStep.mem_found_of_add hadd (hannots ▸ hne), rfl, hannots⟩

def fieldsIn (p : Program) (scope : Scope) (n : TypeName) : Source.Decl → List FieldInfo
  | .type spec => if typeNameIn scope.package scope.file spec.name = n then writtenFields p scope spec.body else []
  | _ => []

theorem decl_lists {d : Source.Decl} (h : (Scan.decl p scope d).run s = (.ok (), s')) :
    Lists p n (fieldsIn p scope n d) s s' ∧ ∀ spec, d = .type spec → ReadsType p scope spec s' := by
  rw [Scan.decl, ScanStep.run_get_bind] at h
  have hmembers : ∀ {enclosing : SourceElement} {doc : Option CommentGroup} {ids : List Ident},
      (Scan.each (Scan.member p scope enclosing doc) ids).run s = (.ok (), s') → Lists p n [] s s' := by
    intro enclosing doc ids h
    have hlists := lists_each (member_lists (n := n)) h
    rwa [List.flatMap_eq_nil_iff.mpr fun _ _ => rfl] at hlists
  cases d with
  | type spec =>
    obtain ⟨hlists, hreads⟩ := type_lists (n := n) h
    refine ⟨hlists, ?_⟩
    rintro _ ⟨⟩
    exact hreads
  | const spec => exact ⟨hmembers h, fun _ h => by cases h⟩
  | var spec => exact ⟨hmembers h, fun _ h => by cases h⟩
  | func spec => exact ⟨member_lists h, fun _ h => by cases h⟩

variable {pkg : Package} {f : File}

theorem file_lists (h : (Scan.file p pkg f).run s = (.ok (), s')) :
    Lists p n (f.decls.flatMap (fieldsIn p { package := pkg, file := f } n)) s s' ∧
      ∀ spec, .type spec ∈ f.decls → ReadsType p { package := pkg, file := f } spec s' := by
  have hdecls := (ScanStep.run_file h).1
  have hlists := lists_each (fun hd => (decl_lists (n := n) hd).1) hdecls
  have hreads := forall_of_each
    (P := fun (d : Source.Decl) s => ∀ spec, d = .type spec → ReadsType p { package := pkg, file := f } spec s)
    (fun hkept hread spec hspec => (hread spec hspec).mono hkept)
    (fun hd => ⟨(decl_lists (n := n) hd).1.kept, (decl_lists (n := n) hd).2⟩) hdecls
  exact ⟨⟨hlists.fields, hlists.kept, hlists.elements⟩, fun spec hspec => hreads _ hspec spec rfl⟩

theorem packageDoc_lists (h : (Scan.packageDoc p pkg f).run s = (.ok (), s')) : Lists p n [] s s' := by
  obtain ⟨-, pos, rfl⟩ := ScanStep.run_packageDoc h
  exact .none rfl fun _ he => he

/-- The declared types of a package are those of its declarations. -/
theorem mem_types_iff {d : DeclaredType} :
    d ∈ pkg.types ↔ ∃ f ∈ pkg.files, ∃ spec, .type spec ∈ f.decls ∧ d = ⟨pkg, f, spec⟩ := by
  rw [Package.types, List.mem_flatMap]
  refine exists_congr fun f => and_congr_right fun _ => ?_
  rw [List.mem_filterMap]
  constructor
  · rintro ⟨decl, hdecl, hd⟩
    cases decl with
    | type spec => exact ⟨spec, hdecl, (Option.some.inj hd).symm⟩
    | _ => cases hd
  · rintro ⟨spec, hspec, rfl⟩
    exact ⟨_, hspec, rfl⟩

theorem package_typeName {d : DeclaredType} (hd : d ∈ pkg.types) : d.typeName.package = some pkg.id := by
  obtain ⟨f, -, spec, -, rfl⟩ := mem_types_iff.mp hd
  rfl

theorem flatMap_types (p : Program) (pkg : Package) (n : TypeName) :
    (pkg.types.flatMap fun d => if d.typeName = n then declaredFields p d else []) =
      pkg.files.flatMap fun f => f.decls.flatMap (fieldsIn p { package := pkg, file := f } n) := by
  rw [Package.types, List.flatMap_assoc]
  congr 1
  funext f
  induction f.decls with
  | nil => rfl
  | cons d decls ih =>
    rw [List.flatMap_cons, ← ih]
    cases d <;> rfl

/-- A scan of a package adds to the fields of a type those of all its declarations. -/
theorem package_lists (h : (Scan.package p pkg).run s = (.ok (), s')) :
    Lists p n (pkg.types.flatMap fun d => if d.typeName = n then declaredFields p d else []) s s' ∧
      ∀ d ∈ pkg.types, ReadsType p { package := d.package, file := d.file } d.spec s' := by
  obtain ⟨s₁, s₂, hdocs, hadd, hfiles⟩ := ScanStep.run_package h
  obtain ⟨hknown, -, hkept⟩ := ScanStep.run_add_keeps hadd
  have hdocs := lists_each (packageDoc_lists (n := n)) hdocs
  have hfound : Lists p n [] s₁ s₂ := .none (by rw [hknown]) hkept
  have hlists := lists_each (fun hf => (file_lists (n := n) hf).1) hfiles
  have hreads := forall_of_each
    (P := fun f s => ∀ spec, .type spec ∈ f.decls → ReadsType p { package := pkg, file := f } spec s)
    (fun hkept hread spec hspec => (hread spec hspec).mono hkept)
    (fun hf => ⟨(file_lists (n := n) hf).1.kept, (file_lists (n := n) hf).2⟩) hfiles
  have hall := (hdocs.trans hfound).trans hlists
  rw [List.flatMap_eq_nil_iff.mpr fun _ _ => rfl, List.nil_append, List.nil_append] at hall
  refine ⟨(flatMap_types p pkg n).symm ▸ hall, fun d hd => ?_⟩
  obtain ⟨f, hf, spec, hspec, rfl⟩ := mem_types_iff.mp hd
  exact hreads f hf spec hspec

end

theorem flatMap_if_eq {α β κ : Type} [DecidableEq κ] {key : α → κ} (g : α → List β) {as : List α}
    (h : (as.map key).Nodup) {a : α} (ha : a ∈ as) : (as.flatMap fun b => if key b = key a then g b else []) = g a := by
  induction as with
  | nil => cases ha
  | cons b as ih =>
    obtain ⟨hb, has⟩ := List.nodup_cons.mp h
    rw [List.flatMap_cons]
    rcases List.mem_cons.mp ha with rfl | ha
    · have hnone : ∀ c ∈ as, (if key c = key a then g c else []) = [] := fun c hc =>
        if_neg fun heq : key c = key a => hb (heq ▸ List.mem_map_of_mem hc)
      rw [if_pos rfl, List.flatMap_eq_nil_iff.mpr hnone, List.append_nil]
    · have hne : key b ≠ key a := fun heq => hb (heq ▸ List.mem_map_of_mem ha)
      rw [if_neg hne, List.nil_append, ih has ha]

/-- A scan that succeeds has added to the fields of each type those that its declaration writes out. -/
theorem scan_lists {p : Program} {pkg : Package} {known known' : Known} {found : List Found}
    (hscan : scan p pkg known = (.ok found, known')) (hdistinct : (pkg.types.map DeclaredType.typeName).Nodup)
    {d : DeclaredType} (hd : d ∈ pkg.types) :
    Lists p d.typeName (declaredFields p d) { known } { known := known', listing.elements := found } ∧
      ReadsType p { package := d.package, file := d.file } d.spec { known := known', listing.elements := found } := by
  rw [scan_eq_run] at hscan
  split at hscan
  · rename_i s hs
    obtain ⟨rfl, rfl⟩ : s.found = found ∧ s.known = known' := by simpa using hscan
    obtain ⟨hlists, hreads⟩ := package_lists (n := d.typeName) hs
    rw [flatMap_if_eq (declaredFields p) hdistinct hd] at hlists
    exact ⟨⟨hlists.fields, hlists.kept, hlists.elements⟩, (hreads d hd).fields, (hreads d hd).found⟩
  · cases hscan

/-- The names and places of the fields of a struct. -/
def fieldNames (fields : List StructField) : List (String × Option Place) := fields.map fun f => (f.id.name, f.place)

/-- The names and places of fields that are known. -/
def infoNames (infos : List FieldInfo) : List (String × Option Place) := infos.map fun i => (i.name, some i.pos)

theorem infoNames_writtenFields (p : Program) (scope : Scope) (fields : List Field) :
    infoNames (writtenFields p scope (.struct fields)) =
      fields.flatMap fun f => (Scan.fieldIdents f).map fun id => (id.name, some (id.spot.inFile scope.file.path)) := by
  simp only [writtenFields, infoNames, List.map_flatMap, fieldInfos, List.map_map]
  rfl

/-- The fields of a struct type are those that are written, one for each name. -/
theorem fieldNames_resolveFields (p : Program) (fuel : Nat) (s : Scope) (fields : List Field) :
    fieldNames (resolveFields p (fuel + 1) s fields) =
      fields.flatMap fun f => (Scan.fieldIdents f).map fun id => (id.name, some (id.spot.inFile s.file.path)) := by
  rw [resolveFields, fieldNames, List.map_flatMap]
  congr 1
  funext f
  unfold Scan.fieldIdents
  cases hnames : f.names with
  | nil => rfl
  | cons id ids => simp [MemberId.of]

/-- What was found out of a type says that it is a struct with these fields, if anything was. -/
def KnowsFields (p : Program) (n : TypeName) (names : List (String × Option Place)) : Prop :=
  ∀ b, p.findings.body? n = some b → ∃ fs, b = .struct fs ∧ fieldNames fs = names

section
variable {p : Program} {n : TypeName} {d : DeclaredType} {fields : List Field} {names : List (String × Option Place)}
  (hd : p.declared? n = some d) (hbody : d.spec.body = .struct fields)
  (hnames : names = fields.flatMap fun f =>
    (Scan.fieldIdents f).map fun id => (id.name, some (id.spot.inFile d.file.path)))
include hd hbody hnames

/-- The underlying type of a type with a struct in its declaration has the fields of that struct. -/
theorem body_of_written (h : KnowsFields p n names) (fuel : Nat) :
    ∃ fs, body p (fuel + 2) (.named n []) = .struct fs ∧ fieldNames fs = names := by
  obtain ⟨package, hpackage, hdecl⟩ := Option.bind_eq_some_iff.mp hd
  rw [body]
  simp only [hpackage]
  cases hknown : p.findings.body? n with
  | some b =>
    obtain ⟨fs, rfl, hfs⟩ := h b hknown
    exact ⟨fs, rfl, hfs⟩
  | none =>
    simp only [hdecl, hbody]
    refine ⟨_, rfl, ?_⟩
    rw [fieldNames_resolveFields, hnames]

theorem body_of_written_settled (h : KnowsFields p n names) :
    ∃ fs, body p p.fuel (.named n []) = .struct fs ∧ fieldNames fs = names := by
  obtain ⟨fuel, hfuel⟩ : ∃ fuel, p.fuel = fuel + 2 := by
    have hpos := p.fuel_pos
    unfold Program.fuel at hpos ⊢
    exact ⟨16 * (p.packages.flatMap Package.files).foldl (fun n f => n + f.size) 4 - 2, by omega⟩
  rw [hfuel]
  exact body_of_written hd hbody hnames h fuel

/-- Nothing else is found out of such a type. -/
theorem knowsFields_learn (h : KnowsFields p n names) (m : DeclName) : KnowsFields (p.learn m) n names := by
  unfold Program.learn
  simp only
  split
  · split <;> exact h
  · split <;> exact h
  · rename_i d' hd'
    split
    · exact h
    · intro b hb
      simp only [Findings.body?, List.find?_cons] at hb
      split at hb
      · rename_i heq
        obtain rfl : d'.typeName = n := by simpa using heq
        obtain ⟨fs, hfs, hall⟩ := body_of_written_settled hd hbody hnames h
        cases hb
        exact ⟨fs, hfs, hall⟩
      · exact h b hb
  · exact h

end

theorem packages_learn (p : Program) (m : DeclName) : (p.learn m).packages = p.packages := by
  unfold Program.learn
  simp only
  split
  · split <;> rfl
  · split <;> rfl
  · split <;> rfl
  · rfl

theorem packages_foldl_learn (names : List DeclName) (p : Program) :
    (names.foldl Program.learn p).packages = p.packages := by
  induction names generalizing p with
  | nil => rfl
  | cons m names ih => exact (ih (p.learn m)).trans (packages_learn p m)

/-- Packages stay as they are when things are found out. -/
theorem packages_settle (p : Program) : p.settle.packages = p.packages := packages_foldl_learn _ p

theorem declared?_of_packages_eq {p q : Program} (h : p.packages = q.packages) (n : TypeName) :
    p.declared? n = q.declared? n := by
  simp only [Program.declared?, Program.package?, h]

/-- In a program where everything has been found out, a type with a struct in its declaration has the fields of it. -/
theorem body_settle {packages : List Package} {n : TypeName} {d : DeclaredType} {fields : List Field}
    (hd : (Program.settle { packages }).declared? n = some d) (hbody : d.spec.body = .struct fields) :
    ∃ fs, body (.settle { packages }) (Program.settle { packages }).fuel (.named n []) = .struct fs ∧
      fieldNames fs = fields.flatMap fun f =>
        (Scan.fieldIdents f).map fun id => (id.name, some (id.spot.inFile d.file.path)) := by
  have hknows : ∀ (names : List DeclName) (p : Program), p.declared? n = some d →
      KnowsFields p n (fields.flatMap fun f =>
        (Scan.fieldIdents f).map fun id => (id.name, some (id.spot.inFile d.file.path))) →
      KnowsFields (names.foldl Program.learn p) n (fields.flatMap fun f =>
        (Scan.fieldIdents f).map fun id => (id.name, some (id.spot.inFile d.file.path))) := by
    intro names
    induction names with
    | nil => exact fun _ _ h => h
    | cons m names ih =>
      intro p hp h
      exact ih (p.learn m) ((declared?_of_packages_eq (packages_learn p m) n).trans hp)
        (knowsFields_learn hp hbody rfl h m)
  refine body_of_written_settled hd hbody rfl (hknows _ _ ?_ ?_)
  · rw [← declared?_of_packages_eq (packages_settle _) n]
    exact hd
  · intro b hb
    cases hb

end ServiceAnnotations.Elements
