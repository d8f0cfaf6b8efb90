import ServiceAnnotations.Proofs.Elements.Fields

/-! # The types that a scan finds

An element that declares a type is found at most once for each declaration, in the order of the declarations. Aliases
are not found: annotations on them are an error. -/
namespace ServiceAnnotations.Elements
open Registry Source ServiceAnnotations.Types

/-- What a part of a scan finds: elements that declare some of the given types, in this order, each at most once. -/
def FindsTypes (names : List TypeName) (s s' : Scan) : Prop :=
  ∃ new, s'.found = s.found ++ new ∧ (new.filterMap Found.type).Sublist names

section
variable {names names' : List TypeName} {s s₁ s₂ s' : Scan}

theorem FindsTypes.of_eq (h : s'.found = s.found) : FindsTypes [] s s' := ⟨[], by simpa using h, .slnil⟩

theorem FindsTypes.trans (h₁ : FindsTypes names s s₁) (h₂ : FindsTypes names' s₁ s₂) :
    FindsTypes (names ++ names') s s₂ := by
  obtain ⟨new, hfound, hsub⟩ := h₁
  obtain ⟨new', hfound', hsub'⟩ := h₂
  refine ⟨new ++ new', by rw [hfound', hfound, List.append_assoc], ?_⟩
  rw [List.filterMap_append]
  exact hsub.append hsub'

/-- Parts of a scan before which nothing is found. -/
theorem FindsTypes.of_found (h : FindsTypes names s₁ s') (hfound : s₁.found = s.found) : FindsTypes names s s' := by
  obtain ⟨new, hnew, hsub⟩ := h
  exact ⟨new, hfound ▸ hnew, hsub⟩

theorem findsTypes_each {α : Type} {f : α → ScanStep Unit} {g : α → List TypeName}
    (hf : ∀ {a s s'}, (f a).run s = (.ok (), s') → FindsTypes (g a) s s') {as : List α}
    (h : (Scan.each f as).run s = (.ok (), s')) : FindsTypes (as.flatMap g) s s' :=
  ScanStep.run_each (R := fun as s s' => FindsTypes (as.flatMap g) s s') (fun _ => .of_eq rfl)
    (fun ha has => (hf ha).trans has) h

/-- Steps that find no types. -/
theorem findsTypes_each_nil {α : Type} {f : α → ScanStep Unit}
    (hf : ∀ {a s s'}, (f a).run s = (.ok (), s') → FindsTypes [] s s') {as : List α}
    (h : (Scan.each f as).run s = (.ok (), s')) : FindsTypes [] s s' := by
  have hall := findsTypes_each hf h
  rwa [List.flatMap_eq_nil_iff.mpr fun _ _ => rfl] at hall

variable {p : Program} {scope : Scope}

theorem add_findsTypes {e : SourceElement} {type : Option TypeName} (h : (Scan.add e type).run s = (.ok (), s')) :
    FindsTypes type.toList s s' := by
  obtain ⟨-, rfl⟩ | ⟨-, rfl⟩ := ScanStep.run_add h
  · exact ⟨[], (List.append_nil _).symm, List.nil_sublist _⟩
  · exact ⟨[⟨e, type⟩], rfl, by cases type <;> simp⟩

theorem member_findsTypes {enclosing : SourceElement} {doc : Option CommentGroup} {id : Ident}
    (h : (Scan.member p scope enclosing doc id).run s = (.ok (), s')) : FindsTypes [] s s' := by
  exact (add_findsTypes (ScanStep.run_member h).2).of_found rfl

theorem field_findsTypes {n : TypeName} {f : Field} (h : (Scan.field p scope n f).run s = (.ok (), s')) :
    FindsTypes [] s s' := by
  refine (findsTypes_each_nil (fun hid => ?_) (ScanStep.run_field h).2).of_found rfl
  obtain ⟨k, rfl, hadd⟩ := ScanStep.run_addField hid
  exact add_findsTypes hadd

theorem item_findsTypes {n : TypeName} {i : InterfaceItem} (h : (Scan.item p scope n i).run s = (.ok (), s')) :
    FindsTypes [] s s' := by
  obtain ⟨doc, name, sig, rfl, hmember⟩ | ⟨terms, rfl, rfl⟩ := ScanStep.run_item h
  · exact member_findsTypes hmember
  · exact .of_eq rfl

theorem members_findsTypes {n : TypeName} {e : TypeExpr} (h : (Scan.members p scope n e).run s = (.ok (), s')) :
    FindsTypes [] s s' := by
  unfold Scan.members at h
  split at h
  · exact findsTypes_each_nil field_findsTypes h
  · exact findsTypes_each_nil item_findsTypes h
  · obtain ⟨-, rfl⟩ := Prod.mk.inj h
    exact .of_eq rfl

def declaredTypes (scope : Scope) : Source.Decl → List TypeName
  | .type spec => if spec.isAlias then [] else [typeNameIn scope.package scope.file spec.name]
  | _ => []

theorem type_findsTypes {spec : TypeSpec} (h : (Scan.type p scope spec).run s = (.ok (), s')) :
    FindsTypes (declaredTypes scope (.type spec)) s s' := by
  obtain ⟨-, halias, s₁, hmembers, hadd⟩ := ScanStep.run_type h
  have hbefore : FindsTypes [] s s₁ := (members_findsTypes hmembers).of_found rfl
  have hrest : FindsTypes (declaredTypes scope (.type spec)) s₁ s' := by
    cases hspec : spec.isAlias with
    | false =>
      simp only [declaredTypes, hspec]
      exact add_findsTypes hadd
    | true =>
      -- an alias without annotations is no element
      have hannots := (annots_typeElement hmembers).trans (halias hspec)
      obtain ⟨-, rfl⟩ | ⟨hsome, -⟩ := ScanStep.run_add hadd
      · simp only [declaredTypes, hspec]
        exact .of_eq rfl
      · exact absurd hannots hsome
  exact hbefore.trans hrest

theorem decl_findsTypes {d : Source.Decl} (h : (Scan.decl p scope d).run s = (.ok (), s')) :
    FindsTypes (declaredTypes scope d) s s' := by
  rw [Scan.decl, ScanStep.run_get_bind] at h
  cases d with
  | type spec => exact type_findsTypes h
  | const spec | var spec => exact findsTypes_each_nil member_findsTypes h
  | func spec => exact member_findsTypes h

variable {pkg : Package} {f : File}

theorem file_findsTypes (h : (Scan.file p pkg f).run s = (.ok (), s')) :
    FindsTypes (f.decls.flatMap (declaredTypes { package := pkg, file := f })) s s' := by
  exact (findsTypes_each decl_findsTypes (ScanStep.run_file h).1).of_found rfl

theorem packageDoc_findsTypes (h : (Scan.packageDoc p pkg f).run s = (.ok (), s')) : FindsTypes [] s s' := by
  obtain ⟨-, pos, rfl⟩ := ScanStep.run_packageDoc h
  exact .of_eq rfl

theorem package_findsTypes (h : (Scan.package p pkg).run s = (.ok (), s')) :
    FindsTypes (pkg.files.flatMap fun f => f.decls.flatMap (declaredTypes { package := pkg, file := f })) s s' := by
  obtain ⟨s₁, s₂, hdocs, hadd, hfiles⟩ := ScanStep.run_package h
  exact (findsTypes_each_nil packageDoc_findsTypes hdocs).trans
    ((add_findsTypes hadd).trans (findsTypes_each file_findsTypes hfiles))

end

/-- The declared types of a package that are no aliases, as they stand in its files. -/
theorem map_typeName_types (pkg : Package) :
    ((pkg.types.filter fun d => !d.spec.isAlias).map DeclaredType.typeName) =
      pkg.files.flatMap fun f => f.decls.flatMap (declaredTypes { package := pkg, file := f }) := by
  rw [Package.types, List.filter_flatMap, List.map_flatMap]
  congr 1
  funext f
  induction f.decls with
  | nil => rfl
  | cons d decls ih =>
    rw [List.flatMap_cons, ← ih]
    cases d with
    | type spec => cases halias : spec.isAlias <;> simp [declaredTypes, halias, DeclaredType.typeName]
    | _ => simp [declaredTypes]

/-- The types of the elements that a scan finds are declared ones, no aliases, each found at most once. -/
theorem scan_findsTypes {p : Program} {pkg : Package} {known known' : Known} {found : List Found}
    (hscan : scan p pkg known = (.ok found, known')) :
    (found.filterMap Found.type).Sublist
      ((pkg.types.filter fun d => !d.spec.isAlias).map DeclaredType.typeName) := by
  rw [scan_eq_run] at hscan
  split at hscan
  · rename_i s hs
    obtain ⟨rfl, rfl⟩ : s.found = found ∧ s.known = known' := by simpa using hscan
    obtain ⟨new, hfound, hsub⟩ := package_findsTypes hs
    obtain rfl : s.found = new := by simpa [Scan.found] using hfound
    rwa [map_typeName_types]
  · cases hscan

end ServiceAnnotations.Elements
