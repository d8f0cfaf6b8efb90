import ServiceAnnotations.Processing.Run
import ServiceAnnotations.Types.Load
import ServiceAnnotations.Proofs.Processing.Rereading

/-! # Generating files again

A package is processed once more when the files that were generated for it have been put in place. Since
copies of a generated file do not count, the same file is generated again, with the same reports. Setters
are left out where an embedded type takes their names; there a copy of the file may count, and so this
holds for structs without embedded fields. -/
namespace ServiceAnnotations.Processing
open Companion Elements Files Registry Source ServiceAnnotations.Types

/-- The work of a generator on a package and on the package with copies of its file replaced. -/
structure Work.Alike (name : String) (pkg pkg' : Package) (w w' : Work) : Prop where
  file_name : w.file.name = name
  file_name' : w'.file.name = name
  package : w.file.package = pkg
  package' : w'.file.package = pkg'
  decls : w'.file.decls = w.file.decls
  first : w'.first = w.first
  reports : w'.reports = w.reports

def Generate.Alike (name : String) (pkg pkg' : Package) {α : Type} (x x' : Generate α) : Prop :=
  ∀ w w' : Work, w.Alike name pkg pkg' w' →
    (x'.run w').1 = (x.run w).1 ∧ (x.run w).2.Alike name pkg pkg' (x'.run w').2

theorem Generate.run_bind {α β : Type} (x : Generate α) (k : α → Generate β) (w : Work) :
    (x >>= k).run w = match x.run w with
      | (.ok a, w₁) => (k a).run w₁
      | (.error e, w₁) => (.error e, w₁) := by
  change (StateT.bind x.run (ExceptT.bindCont k) w : Except Unit β × Work) = _
  rw [StateT.bind]
  rcases x.run w with ⟨e | a, w₁⟩ <;> rfl

namespace Generate.Alike
variable {name : String} {pkg pkg' : Package} {α β : Type}

theorem pure (a : α) : Alike name pkg pkg' (Pure.pure a) (Pure.pure a) := fun _ _ h => ⟨rfl, h⟩

theorem throw : Alike name pkg pkg' (throw () : Generate α) (throw ()) := fun _ _ h => ⟨rfl, h⟩

theorem bind {x x' : Generate α} {k k' : α → Generate β} (hx : Alike name pkg pkg' x x')
    (hk : ∀ a, Alike name pkg pkg' (k a) (k' a)) : Alike name pkg pkg' (x >>= k) (x' >>= k') := by
  intro w w' h
  obtain ⟨hresult, hwork⟩ := hx w w' h
  rw [run_bind, run_bind]
  rcases hrun : x.run w with ⟨result, w₁⟩
  rcases hrun' : x'.run w' with ⟨result', w₁'⟩
  rw [hrun, hrun'] at hresult hwork
  obtain rfl : result' = result := hresult
  cases result' with
  | error e => exact ⟨rfl, hwork⟩
  | ok a => exact hk a _ _ hwork

theorem get_bind {k k' : Work → Generate β}
    (hk : ∀ {w w'}, w.Alike name pkg pkg' w' → Alike name pkg pkg' (k w) (k' w')) :
    Alike name pkg pkg' (get >>= k) (get >>= k') := fun w w' h => hk h w w' h

theorem modify (g : Work → Work)
    (hg : ∀ {w w'}, w.Alike name pkg pkg' w' → (g w).Alike name pkg pkg' (g w')) :
    Alike name pkg pkg' (modify g : Generate Unit) (modify g) := fun _ _ h => ⟨rfl, hg h⟩

theorem report (severity : Severity) (pos : Place) (text : Bytes) :
    Alike name pkg pkg' (Generate.report severity pos text) (Generate.report severity pos text) :=
  modify (·.report severity pos text) fun h =>
    { h with reports := by simp only [Work.report, h.reports] }

theorem add (d : Declaration) : Alike name pkg pkg' (Generate.add d) (Generate.add d) :=
  modify (fun w => { w with file := w.file.add d }) fun h =>
    { h with decls := by simp only [GeneratedFile.add, h.decls] }

theorem generated (pos : Place) : Alike name pkg pkg'
    (MonadState.modifyGet fun w : Work => ((), w.generated pos) : Generate Unit)
    (MonadState.modifyGet fun w : Work => ((), w.generated pos)) :=
  modify (·.generated pos) fun h => { h with first := by simp only [Work.generated, h.first] }

/-- Steps over lists whose items look the same one by one. -/
theorem each {γ γ' δ : Type} {view : γ → δ} {view' : γ' → δ} {f : γ → Generate Unit}
    {f' : γ' → Generate Unit} {as : List γ} {as' : List γ'} (has : as'.map view' = as.map view)
    (hf : ∀ a ∈ as, ∀ a', view' a' = view a → Alike name pkg pkg' (f a) (f' a')) :
    Alike name pkg pkg' (Generate.each f as) (Generate.each f' as') := by
  induction as generalizing as' with
  | nil =>
    obtain rfl : as' = [] := by simpa using has
    exact pure ()
  | cons a as ih =>
    obtain ⟨a', as', rfl, ha, has⟩ := List.map_eq_cons_iff.mp has
    obtain ⟨hfirst, hrest⟩ := List.forall_mem_cons.mp hf
    exact (hfirst a' ha).bind fun _ => ih has hrest

end Generate.Alike

/-- The same names are taken. -/
theorem Work.Alike.isTaken_eq {name : String} {pkg pkg' : Package} {w w' : Work}
    (hw : w.Alike name pkg pkg' w') (hpkg : Refreshed name pkg pkg') : w'.file.isTaken = w.file.isTaken := by
  obtain ⟨rfl, hname', rfl, rfl, -, -, -⟩ := hw
  exact funext (isTaken_refreshed hname' hpkg)

/-- A struct type with an annotation looks the same in two programs. -/
structure Target.Alike (writer : Writer) (p p' : Program) (t t' : Target) : Prop where
  type : t'.type = t.type
  pos : t'.pos = t.pos
  isGeneric : t'.isGeneric = t.isGeneric
  fields : t'.fields.map (FieldInfo.view writer p') = t.fields.map (FieldInfo.view writer p)

section
variable {writer : Writer} {p p' : Program} {k k' : Known} {f f' : Found}

theorem target?_eq (p : Program) (k : Known) (f : Found) :
    target? p k f = f.type.bind fun n =>
      if (body p p.fuel (p.typeOf n)).isStruct then
        some ⟨n, f.element, (k.type n).pos, (k.type n).fields, p.isGeneric n⟩
      else none := by
  unfold target?
  cases f.type with
  | none => rfl
  | some n =>
    dsimp only [Option.bind_some]
    cases body p p.fuel (p.typeOf n) <;> rfl

/-- Elements that look the same declare struct types that look the same, or none. -/
theorem target?_alike (hview : Found.view f' = Found.view f)
    (h : ∀ n, f.type = some n → LooksAlike writer p p' k k' n) :
    (target? p k f = none ∧ target? p' k' f' = none) ∨
      ∃ t t', target? p k f = some t ∧ target? p' k' f' = some t' ∧ t.Alike writer p p' t' ∧
        f.type = some t.type ∧ (body p p.fuel (p.typeOf t.type)).isStruct := by
  have htype : f'.type = f.type := congrArg Prod.fst hview
  rw [target?_eq, target?_eq, htype]
  cases hf : f.type with
  | none => exact .inl ⟨rfl, rfl⟩
  | some n =>
    have hn := h n hf
    rw [Option.bind_some, Option.bind_some, hn.isStruct]
    cases hstruct : (body p p.fuel (p.typeOf n)).isStruct with
    | false => exact .inl ⟨rfl, rfl⟩
    | true => exact .inr ⟨_, _, rfl, rfl, ⟨rfl, hn.pos, hn.isGeneric, hn.fields⟩, rfl, hstruct⟩

end

section
variable {name : String} {pkg pkg' : Package} {writer : Writer} {p p' : Program} {k k' : Known} {f f' : Found}
  {x x' : FieldInfo}

theorem findAnnot_isNone_eq (annots : List SourceAnnot) (type : Bytes) :
    (findAnnot annots type).isNone = !(annots.map Annot.type).contains type := by
  induction annots with
  | nil => rfl
  | cons a annots ih =>
    by_cases ha : a.type = type
    · simp [findAnnot, ha]
    · have hne : (type == a.type) = false := by simpa using fun h => ha h.symm
      rw [findAnnot, List.find?_cons_of_neg (by simpa using ha), List.map_cons, List.contains_cons, hne]
      exact ih

theorem appendField_alike (function : String) (b : FormatBody) (h : FieldInfo.view writer p' x' = FieldInfo.view writer p x) :
    Generate.Alike name pkg pkg' (FormatBody.appendField function b x) (FormatBody.appendField function b x') := by
  obtain ⟨⟨hname, hpos, hannots⟩, -⟩ := by simpa only [FieldInfo.view, Prod.mk.injEq] using h
  have hnone : (findAnnot x'.annots (moduleAnnot "Name")).isNone =
      (findAnnot x.annots (moduleAnnot "Name")).isNone := by
    rw [findAnnot_isNone_eq, findAnnot_isNone_eq, hannots]
  unfold FormatBody.appendField
  rw [hnone, hname, hpos]
  split
  · exact .pure b
  · split
    · exact (Generate.Alike.report _ _ _).bind fun _ => .pure b
    · exact .pure _

theorem foldlM_appendField_alike (function : String) (b : FormatBody) {fields fields' : List FieldInfo}
    (h : fields'.map (FieldInfo.view writer p') = fields.map (FieldInfo.view writer p)) :
    Generate.Alike name pkg pkg' (fields.foldlM (FormatBody.appendField function) b)
      (fields'.foldlM (FormatBody.appendField function) b) := by
  induction fields generalizing fields' b with
  | nil =>
    obtain rfl : fields' = [] := by simpa using h
    exact .pure b
  | cons x fields ih =>
    obtain ⟨x', fields', rfl, hx, hfields⟩ := List.map_eq_cons_iff.mp h
    rw [List.foldlM_cons, List.foldlM_cons]
    exact (appendField_alike function b hx).bind fun b => ih b hfields

theorem generateFormat_alike (hpkg : Refreshed name pkg pkg') (hview : Found.view f' = Found.view f)
    (h : ∀ n, f.type = some n → LooksAlike writer p p' k k' n) :
    Generate.Alike name pkg pkg' (generateFormat p k f) (generateFormat p' k' f') := by
  have htype : f'.type = f.type := congrArg Prod.fst hview
  unfold generateFormat
  rw [htype]
  cases hf : f.type with
  | none => exact .pure ()
  | some n =>
    have hn := h n hf
    dsimp only
    rw [hn.kind, hn.pos]
    split
    · exact .pure ()
    · obtain ⟨hnone, hnone'⟩ | ⟨t, t', ht, ht', halike, -, -⟩ := target?_alike hview h
      · rw [hnone, hnone']
        exact .report _ _ _
      · rw [ht, ht']
        dsimp only
        rw [halike.isGeneric, halike.pos]
        split
        · exact .report _ _ _
        · refine .get_bind fun {w w'} hw => ?_
          rw [hw.isTaken_eq hpkg]
          split
          · exact .report _ _ _
          · exact (foldlM_appendField_alike _ _ halike.fields).bind fun _ =>
              (Generate.Alike.add _).bind fun _ => .generated _

theorem generateGetters_alike (view : String) (seen : List String) {fields fields' : List FieldInfo}
    (h : fields'.map (FieldInfo.view writer p') = fields.map (FieldInfo.view writer p)) :
    Generate.Alike name pkg pkg' (generateGetters writer p view seen fields)
      (generateGetters writer p' view seen fields') := by
  induction fields generalizing fields' seen with
  | nil =>
    obtain rfl : fields' = [] := by simpa using h
    exact .pure ()
  | cons f fields ih =>
    obtain ⟨f', fields', rfl, hf, hfields⟩ := List.map_eq_cons_iff.mp h
    obtain ⟨⟨hname, hpos, -⟩, hshape⟩ := by simpa only [FieldInfo.view, Prod.mk.injEq] using hf
    rw [generateGetters, generateGetters, hname, hpos, hshape]
    split
    · exact ih seen hfields
    · dsimp only
      split
      · exact (Generate.Alike.report _ _ _).bind fun _ => ih seen hfields
      · split
        · exact .throw
        · exact (Generate.Alike.add _).bind fun _ => ih _ hfields

theorem generateView_alike (hpkg : Refreshed name pkg pkg') {t t' : Target} (h : t.Alike writer p p' t') :
    Generate.Alike name pkg pkg' (generateView writer p t) (generateView writer p' t') := by
  unfold generateView
  dsimp only
  rw [h.isGeneric, h.type, h.pos]
  split
  · exact .report _ _ _
  · refine .get_bind fun {w w'} hw => ?_
    rw [hw.isTaken_eq hpkg]
    split
    · exact .report _ _ _
    · exact (Generate.Alike.add _).bind fun _ => (Generate.Alike.add _).bind fun _ =>
        (generateGetters_alike _ _ h.fields).bind fun _ => .generated _

theorem generateImmutable_alike (hpkg : Refreshed name pkg pkg') (hview : Found.view f' = Found.view f)
    (h : ∀ n, f.type = some n → LooksAlike writer p p' k k' n) :
    Generate.Alike name pkg pkg' (generateImmutable .generate writer p k f)
      (generateImmutable .generate writer p' k' f') := by
  have hpos : f'.element.pos = f.element.pos := congrArg (·.2.1) hview
  unfold generateImmutable
  rw [hpos]
  obtain ⟨hnone, hnone'⟩ | ⟨t, t', ht, ht', halike, -, -⟩ := target?_alike hview h
  · rw [hnone, hnone']
    exact .report _ _ _
  · rw [ht, ht']
    exact generateView_alike hpkg halike

/-- The same members are taken. -/
theorem Work.Alike.any_lookup_eq {w w' : Work} (hw : w.Alike name pkg pkg' w')
    (hpkg : Refreshed name pkg pkg') (hp : p.package? pkg.id = some pkg) (hp' : p'.package? pkg.id = some pkg') {n : TypeName}
    (hflat : FlatAlike p p' pkg pkg' n) (hstruct : (body p p.fuel (p.typeOf n)).isStruct)
    (hstruct' : (body p' p'.fuel (p'.typeOf n)).isStruct) (member : String) :
    ((lookup p' p'.fuel (.pointer (p'.typeOf n)) false (.of w'.file.package.path member)).any
        fun m => w'.file.isElsewhere m.place) =
      (lookup p p.fuel (.pointer (p.typeOf n)) false (.of w.file.package.path member)).any
        fun m => w.file.isElsewhere m.place := by
  obtain ⟨rfl, hname', rfl, rfl, -, -, -⟩ := hw
  exact any_lookup_refreshed hname' hpkg hp hp' hflat hstruct hstruct' member

theorem generateSetter_alike (hpkg : Refreshed name pkg pkg') (hp : p.package? pkg.id = some pkg)
    (hp' : p'.package? pkg.id = some pkg') {t t' : Target} (h : t.Alike writer p p' t')
    (hstruct : (body p p.fuel (p.typeOf t.type)).isStruct)
    (hstruct' : (body p' p'.fuel (p'.typeOf t.type)).isStruct)
    (hflat : FlatAlike p p' pkg pkg' t.type)
    (hx : FieldInfo.view writer p' x' = FieldInfo.view writer p x) :
    Generate.Alike name pkg pkg' (generateSetter writer p t x) (generateSetter writer p' t' x') := by
  obtain ⟨⟨hname, hpos, -⟩, hshape⟩ := by simpa only [FieldInfo.view, Prod.mk.injEq] using hx
  unfold generateSetter
  rw [hname, hpos, hshape, h.type, h.pos]
  split
  · exact .pure ()
  · refine .get_bind fun {w w'} hw => ?_
    dsimp only
    rw [hw.any_lookup_eq hpkg hp hp' hflat hstruct hstruct']
    split
    · exact .report _ _ _
    · split
      · exact .throw
      · exact (Generate.Alike.add _).bind fun _ => .generated _

theorem generateSetters_alike (hpkg : Refreshed name pkg pkg') (hp : p.package? pkg.id = some pkg)
    (hp' : p'.package? pkg.id = some pkg') (hview : Found.view f' = Found.view f)
    (h : ∀ n, f.type = some n → LooksAlike writer p p' k k' n)
    (hflat : ∀ n, f.type = some n → FlatAlike p p' pkg pkg' n) :
    Generate.Alike name pkg pkg' (generateSetters writer p k f) (generateSetters writer p' k' f') := by
  have hpos : f'.element.pos = f.element.pos := congrArg (·.2.1) hview
  unfold generateSetters
  rw [hpos]
  obtain ⟨hnone, hnone'⟩ | ⟨t, t', ht, ht', halike, htype, hstruct⟩ := target?_alike hview h
  · rw [hnone, hnone']
    exact .report _ _ _
  · rw [ht, ht']
    dsimp only
    rw [halike.isGeneric, halike.type, halike.pos]
    have hstruct' := (h t.type htype).isStruct.trans hstruct
    split
    · exact .report _ _ _
    · exact .each halike.fields fun x _ x' hx =>
        generateSetter_alike hpkg hp hp' halike hstruct hstruct' (hflat t.type htype) hx

end

theorem map_view_annotatedWith (found : List Found) (annot : String) :
    (annotatedWith found annot).map Found.view =
      (found.map Found.view).filter fun v => v.2.2.contains (moduleAnnot annot) := by
  have hannots (f : Found) :
      f.element.isAnnotatedWith (moduleAnnot annot) = (Found.view f).2.2.contains (moduleAnnot annot) := by
    rw [Bool.eq_iff_iff]
    simp [Found.view, Element.isAnnotatedWith]
  rw [annotatedWith_eq, List.filter_map]
  exact congrArg (List.map Found.view) (List.filter_congr fun f _ => hannots f)

section
variable {σ : Type} {env : Environment} {p' : Program} {pkg pkg' : Package} {known known' : Known}
  {found found' : List Found}

/-- The same declarations make the same file. -/
theorem writeGenerated_alike {f f' : GeneratedFile} (hname : f'.name = f.name)
    (h : Refreshed f.name f.package f'.package) (hdecls : f'.decls = f.decls) (pos : Place) (s : Session σ) :
    writeGenerated { env with program := p' } f' pos s = writeGenerated env f pos s := by
  have hpath : f'.path = f.path := by simp only [GeneratedFile.path, h.dir_eq, hname]
  have hspec : f'.spec = f.spec := by simp only [GeneratedFile.spec, h.path_eq, h.name_eq, hdecls]
  simp only [writeGenerated, hpath, hspec, hdecls]

theorem runGenerator_refreshed {annot suffix : String} {generate : Program → Known → Found → Generate Unit}
    (hpkg : Refreshed (pkg.name ++ "." ++ suffix) pkg pkg')
    (hfound : found'.map Found.view = found.map Found.view)
    (hgenerate : ∀ f ∈ annotatedWith found annot, ∀ f', Found.view f' = Found.view f →
      Generate.Alike (pkg.name ++ "." ++ suffix) pkg pkg' (generate env.program known f)
        (generate p' known' f'))
    (s : Session σ) :
    runGenerator { env with program := p' } annot suffix generate pkg' found' known' s =
      runGenerator env annot suffix generate pkg found known s := by
  have hannotated :
      (annotatedWith found' annot).map Found.view = (annotatedWith found annot).map Found.view := by
    rw [map_view_annotatedWith, map_view_annotatedWith, hfound]
  have hstart : Work.Alike (pkg.name ++ "." ++ suffix) pkg pkg' { file := .new pkg suffix }
      { file := .new pkg' suffix } :=
    ⟨rfl, by simp only [GeneratedFile.new, hpkg.name_eq], rfl, rfl, rfl, rfl, rfl⟩
  -- The work is alike at the end, and nothing but the work decides on reports and file.
  obtain ⟨houtcome, hwork⟩ := Generate.Alike.each hannotated hgenerate _ _ hstart
  simp only [runGenerator]
  rcases hrun : (Generate.each (generate env.program known) (annotatedWith found annot)).run
    { file := .new pkg suffix } with ⟨outcome, w⟩
  rcases hrun' : (Generate.each (generate p' known') (annotatedWith found' annot)).run
    { file := .new pkg' suffix } with ⟨outcome', w'⟩
  rw [hrun, hrun'] at houtcome hwork
  obtain rfl : outcome' = outcome := houtcome
  have hwrite (pos : Place) (s : Session σ) :
      writeGenerated { env with program := p' } w'.file pos s = writeGenerated env w.file pos s := by
    obtain ⟨hname, hname', rfl, rfl, hdecls, -, -⟩ : w.Alike _ pkg pkg' w' := hwork
    exact writeGenerated_alike (hname'.trans hname.symm) (hname ▸ hpkg) hdecls pos s
  have hreports : w'.reports = w.reports := hwork.reports
  have hfirst : w'.first = w.first := hwork.first
  simp only [hreports, hfirst, hwrite]

end

/-- The end of the names of the files that a processor generates. -/
def Processor.suffix? {σ : Type} : Processor σ → Option String
  | .setters => some "setters.autoserv.go"
  | .toStrings => some "autoserv.go"
  | .immutable .generate => some "immutable.autoserv.go"
  | .immutable .analyze | .services _ _ | .custom _ => none

/-- A package read once more after copies of a generated file were replaced. The same elements carry
annotations, and the types they declare look the same. -/
structure Reread (name : String) (writer : Writer) (p p' : Program) (pkg pkg' : Package) (found found' : List Found)
    (known known' : Known) : Prop where
  package : Refreshed name pkg pkg'
  mem : p.package? pkg.id = some pkg
  mem' : p'.package? pkg.id = some pkg'
  scan_eq : scan p pkg {} = (.ok found, known)
  scan_eq' : scan p' pkg' {} = (.ok found', known')
  found_eq : found'.map Found.view = found.map Found.view
  looks : ∀ n ∈ found.filterMap Found.type, LooksAlike writer p p' known known' n

/-- A package is read once more if its files stay when the copies are replaced. -/
theorem FilesStay.reread {name : String} {writer : Writer} {p p' : Program} {pkg pkg' : Package}
    {before old new after : List File} (h : FilesStay name writer p p' pkg pkg' before old new after)
    (hmem : p.package? pkg.id = some pkg) (hmem' : p'.package? pkg.id = some pkg') {found : List Found} {known : Known}
    (hscan : Elements.scan p pkg {} = (.ok found, known)) :
    ∃ found' known', Reread name writer p p' pkg pkg' found found' known known' := by
  obtain ⟨found', known', hscan', hfound, hlooks⟩ := h.scan hscan
  exact ⟨found', known', h.package, hmem, hmem', hscan, hscan', hfound, hlooks⟩

section
variable {σ : Type} {env : Environment} {p' : Program} {pkg pkg' : Package} {known known' : Known}
  {found found' : List Found} {g : Processor σ} {suffix : String}

/-- A generator does the same in the round of a package that was read once more. -/
theorem process_refreshed (hg : g.suffix? = some suffix)
    (h : Reread (pkg.name ++ "." ++ suffix) env.writer env.program p' pkg pkg' found found' known known')
    (hflat : g = .setters → ∀ n ∈ (annotatedWith found "Setter").filterMap Found.type,
      FlatAlike env.program p' pkg pkg' n) (s : Session σ) :
    g.process { env with program := p' } (.package pkg' found' known') s =
      g.process env (.package pkg found known) s := by
  have hlooks {annot : String} : ∀ f ∈ annotatedWith found annot, ∀ n, f.type = some n →
      LooksAlike env.writer env.program p' known known' n := fun f hf n hn =>
    h.looks n (List.mem_filterMap.mpr ⟨f, mem_of_mem_annotatedWith hf, hn⟩)
  cases g with
  | services | custom => cases hg
  | setters =>
    obtain rfl := Option.some.inj hg
    simp only [Processor.process]
    rw [runGenerator_refreshed h.package h.found_eq fun f hf f' hview =>
      generateSetters_alike h.package h.mem h.mem' hview (hlooks f hf) fun n hn =>
        hflat rfl n (List.mem_filterMap.mpr ⟨f, hf, hn⟩)]
  | toStrings =>
    obtain rfl := Option.some.inj hg
    simp only [Processor.process]
    rw [runGenerator_refreshed h.package h.found_eq fun f hf f' hview =>
      generateFormat_alike h.package hview (hlooks f hf)]
  | immutable policy => cases policy with
    | analyze => cases hg
    | generate =>
      obtain rfl := Option.some.inj hg
      simp only [Processor.process]
      rw [runGenerator_refreshed h.package h.found_eq fun f hf f' hview =>
        generateImmutable_alike h.package hview (hlooks f hf)]

/-- A generator keeps nothing between rounds. -/
theorem process_package_of_suffix? (hg : g.suffix? = some suffix) (env : Environment) (pkg : Package)
    (found : List Found) (known : Known) (s : Session σ) :
    (g.process env (.package pkg found known) s).2.1 = g := by
  cases g with
  | services | custom => cases hg
  | setters | toStrings | immutable policy => rfl

/-- A generator does nothing in the last round. -/
theorem process_last_of_suffix? (hg : g.suffix? = some suffix) (env : Environment) (s : Session σ) :
    g.process env .last s = (.ok (), g, s) := by
  cases g with
  | services | custom => cases hg
  | setters | toStrings | immutable policy => rfl

theorem processRounds_refreshed (env : Environment) (hg : g.suffix? = some suffix)
    (h : Reread (pkg.name ++ "." ++ suffix) env.writer env.program p' pkg pkg' found found' known known')
    (hflat : g = .setters → ∀ n ∈ (annotatedWith found "Setter").filterMap Found.type,
      FlatAlike env.program p' pkg pkg' n) (s : Session σ) :
    processRounds { env with program := p' } [pkg'] {} [g] s = processRounds env [pkg] {} [g] s := by
  simp only [processRounds, h.scan_eq, h.scan_eq', h.package.path_eq, processAll,
    process_refreshed hg h hflat]
  rcases hround : g.process env (.package pkg found known)
    (s.log ⟨.info, "processing package", [("package", .text pkg.path)]⟩) with ⟨outcome, g', s'⟩
  obtain rfl : g' = g := by
    rw [← process_package_of_suffix? hg env pkg found known, hround]
  cases outcome with
  | error stop => rfl
  | ok _ => simp only [processAll, process_last_of_suffix? hg]

/-- A generator that runs once more after copies of its file were replaced writes the same file and reports
the same. -/
theorem run_refreshed (env : Environment) {kind : ProcessorKind} {s : Session σ}
    (hinit : Choice.init env (.builtin kind) s = (.ok g, s)) (hg : g.suffix? = some suffix)
    (h : Reread (pkg.name ++ "." ++ suffix) env.writer env.program p' pkg pkg' found found' known known')
    (hflat : g = .setters → ∀ n ∈ (annotatedWith found "Setter").filterMap Found.type,
      FlatAlike env.program p' pkg pkg' n) :
    runProcessors { env with program := p' } [.builtin kind] [pkg'] s =
      runProcessors env [.builtin kind] [pkg] s := by
  -- The run may put a directory in place of an empty one before it initialises the processor.
  have hinitOf (env' : Environment) (henv : env'.options = env.options) :
      Choice.init env' (.builtin kind) s = (.ok g, s) := by
    rw [← hinit]
    cases kind <;> simp only [Choice.init, henv]
  by_cases hdir : env.outputDir = []
  · have hrounds := processRounds_refreshed { env with outputDir := Path.here } hg h hflat s
    simp only [runProcessors, List.isEmpty_cons, Bool.false_eq_true, if_false, initAll, hdir, if_true,
      hinitOf, hrounds]
  · simp only [runProcessors, List.isEmpty_cons, Bool.false_eq_true, if_false, initAll, hdir, hinitOf,
      processRounds_refreshed env hg h hflat s]

end

theorem scan_eq_of_isOk {p : Program} {pkg : Package} {k : Known} (h : (scan p pkg k).1.isOk) :
    scan p pkg k = (.ok ((scan p pkg k).1.toOption.getD []), (scan p pkg k).2) := by
  rcases hscan : scan p pkg k with ⟨_ | _, _⟩
  · rw [hscan] at h
    cases h
  · rfl

def isPlainName (name : String) : Option Shape → Bool
  | some (.name none n) => n = name
  | _ => false

theorem eq_of_isPlainName {name : String} {s : Option Shape} (h : isPlainName name s) :
    s = some (.name none name) := by
  unfold isPlainName at h
  split at h
  · rw [of_decide_eq_true h]
  · cases h

namespace Crates

def crateFile : File :=
  (File.read? (Bytes.ofString "p/crate.go") (Bytes.ofString
    "package p\n\n// @autoserv.Setter\ntype Crate struct\x7b size int \x7d\n")).get (by decide +kernel)

def packageOf (files : List File) : Package where
  id := "p"
  path := "p"
  name := "p"
  dir := "p"
  files := files

def programOf (pkg : Package) : Program := { packages := [pkg] }

def soleEnvironment (pkg : Package) : Environment where
  options := ∅
  outputDir := []
  sources := .tree
  program := programOf pkg

/-- A run of the setters over a package that is all there is. -/
def run (pkg : Package) (s : Session Unit) : Outcome × List (Processor Unit) × Session Unit :=
  runProcessors (soleEnvironment pkg) [.builtin .setters] [pkg] s

def before : Package := packageOf [crateFile]

/-- What a run of the setters leaves. -/
def first : Session Unit := (run before { tree := {}, extra := () }).2.2

def setterPath : Bytes := Bytes.ofString "p/p.setters.autoserv.go"

def written : Bytes :=
  Bytes.ofString "package p\n\nfunc (v *Crate) SetSize(val int) \x7b\n\tv.size = val\n\x7d\n"

def setterFile : File := (File.read? setterPath written).get (by decide +kernel)

def after : Package := packageOf [crateFile, setterFile]

def scanOf (pkg : Package) : Except Misuse (List Found) × Known := scan (programOf pkg) pkg {}

def foundOf (pkg : Package) : List Found := (scanOf pkg).1.toOption.getD []

def crate : TypeName := .member "p" "Crate"

theorem flatAlike_crate : FlatAlike (programOf before) (programOf after) before after crate := by
  decide +kernel

theorem refreshed_after : Refreshed "p.setters.autoserv.go" before after := by
  obtain ⟨hcopy, hunique, hunique'⟩ : (∀ f ∈ [setterFile], IsCopy "p.setters.autoserv.go" f) ∧
      ((objectsOf before.files).map Object.name).Nodup ∧ ((objectsOf after.files).map Object.name).Nodup := by
    decide +kernel
  exact ⟨rfl, rfl, rfl, rfl, ⟨[crateFile], [], [setterFile], [], rfl, rfl, hcopy⟩, hunique, hunique'⟩

/-- The one element that is found is the struct, which is to have setters. -/
theorem scan_before : (scanOf before).1.isOk ∧
    (annotatedWith (foundOf before) "Setter").filterMap Found.type = [crate] := by
  decide +kernel

theorem filesStay_after : FilesStay "p.setters.autoserv.go" .standard (programOf before) (programOf after) before after
    [crateFile] [] [setterFile] [] := by
  -- the files are read once for all that is computed from them
  obtain ⟨hpath, hdocs, hannots, htypes, hplain, hplain'⟩ :
      crateFile.path ≠ setterFile.path ∧
      (setterFile.doc = none ∧ setterFile.docs = [] ∧ fileDocs setterFile = []) ∧
      (∀ doc ∈ crateFile.doc.toList ++ fileDocs crateFile,
        annotTypes? (programOf after) after crateFile doc = annotTypes? (programOf before) before crateFile doc) ∧
      (∀ n ∈ typeNamesOf before ([crateFile] ++ []), kindOf (programOf after) n = kindOf (programOf before) n ∧
        (body (programOf after) (programOf after).fuel ((programOf after).typeOf n)).isStruct =
          (body (programOf before) (programOf before).fuel ((programOf before).typeOf n)).isStruct ∧
        (programOf after).isGeneric n = (programOf before).isGeneric n) ∧
      (∀ t ∈ crateFile.decls.flatMap fieldTypes,
        isPlainName "int" (Writer.standard.type? (programOf before) { package := before, file := crateFile } t)) ∧
      ∀ t ∈ crateFile.decls.flatMap fieldTypes,
        isPlainName "int" (Writer.standard.type? (programOf after) { package := after, file := crateFile } t) := by
    decide +kernel
  refine ⟨refreshed_after, rfl, rfl, ?_, ?_, ?_, htypes⟩
  · simpa using hpath
  · simpa using (⟨hdocs.1, hdocs.2.1, hdocs.2.2⟩ : IsUncommented setterFile)
  · simp only [List.append_nil, List.mem_singleton, forall_eq]
    exact ⟨hannots, fun t ht => by rw [eq_of_isPlainName (hplain t ht), eq_of_isPlainName (hplain' t ht)]⟩

theorem reread_after : ∃ found' known', Reread "p.setters.autoserv.go" .standard (programOf before) (programOf after)
    before after (foundOf before) found' (scanOf before).2 known' :=
  filesStay_after.reread rfl rfl (scan_eq_of_isOk scan_before.1)

end Crates

open Crates in
/-- The setter of a field is generated again when the file with it is there. -/
theorem run_refreshed_crate :
    first.tree.files.get? setterPath = some written ∧ File.read? setterPath written = some setterFile ∧
      run after first = run before first := by
  refine ⟨by decide +kernel, (Option.some_get _).symm, ?_⟩
  obtain ⟨found', known', hreread⟩ := reread_after
  refine run_refreshed (soleEnvironment before) rfl rfl hreread fun _ n hn => ?_
  rw [scan_before.2, List.mem_singleton] at hn
  rw [hn]
  exact flatAlike_crate

namespace Layers

/-- A struct that embeds one with a setter and one with a method of the same name, and has a field for
which the setter would be generated. -/
def tree : Tree where
  files := (∅ : ByteMap Bytes).insert "p/p.go" (Bytes.ofString
    ("package p\n// @autoserv.Setter\ntype A struct\x7bx int\x7d\ntype B struct\x7b\x7d\n" ++
      "func (B) SetX() \x7b\x7d\n// @autoserv.Setter\ntype C struct\x7bA;B;x int\x7d\n"))

/-- The files after a run of the setters over the package `p`, and the reports of the run. -/
def run (t : Tree) : Tree × List Report :=
  let p := Program.load t ["p"]
  let s := (runProcessors { options := ∅, outputDir := [], sources := .tree, program := p } [.builtin .setters] (p.package? "p").toList
    { tree := t, extra := () }).2.2
  (s.tree, reportsOf s.entries)

end Layers

open Layers in
/-- A setter that is left out at first, because a method of an embedded type has its name, is generated once
the setter of another embedded type makes that name ambiguous. -/
theorem setters_rerun_differs :
    let first := run tree
    let second := run first.1
    first.2.map Report.text = [Bytes.ofString "cannot generate C.SetX: the name is already declared"] ∧
      second.2 = [] ∧ second.1.files.get? (Bytes.ofString "p/p.setters.autoserv.go") ≠
        first.1.files.get? (Bytes.ofString "p/p.setters.autoserv.go") := by
  decide +kernel

end ServiceAnnotations.Processing
