import ServiceAnnotations.Companion.File
import ServiceAnnotations.Types.Subtype
import ServiceAnnotations.Proofs.Types.Lookup

/-! # Copies of generated files

What an earlier copy of a generated file declares does not count as taken. So the names that are taken in a
package stay the same when copies are replaced, and so do the members that are taken in a struct without
embedded fields. -/
namespace ServiceAnnotations.Companion
open Files Source ServiceAnnotations.Types

def declIdents : Source.Decl → List Ident
  | .type spec => [spec.name]
  | .const spec => spec.names
  | .var spec => spec.names
  | .func spec => [spec.name]

def IsCopy (name : String) (f : File) : Prop :=
  ∀ d ∈ f.decls, ∀ id ∈ declIdents d, Path.base (id.spot.inFile f.path).file = Bytes.ofString name

instance (name : String) (f : File) : Decidable (IsCopy name f) :=
  inferInstanceAs (Decidable (∀ d ∈ f.decls, ∀ id ∈ declIdents d, _))

/-- What the files of a package declare. -/
def objectsOf (files : List File) : List Object := files.flatMap Types.File.objects

/-- A package in which the copies of a generated file were replaced. Package-level names are declared
once. -/
structure Refreshed (name : String) (pkg pkg' : Package) : Prop where
  id_eq : pkg'.id = pkg.id
  path_eq : pkg'.path = pkg.path
  name_eq : pkg'.name = pkg.name
  dir_eq : pkg'.dir = pkg.dir
  files : ∃ before old new after, pkg.files = before ++ old ++ after ∧
    pkg'.files = before ++ new ++ after ∧ ∀ f ∈ old ++ new, IsCopy name f
  unique : ((objectsOf pkg.files).map Object.name).Nodup
  unique' : ((objectsOf pkg'.files).map Object.name).Nodup

section
variable {name : String} {pkg pkg' : Package}

/-- What is found in a file and has a place outside all copies is found in both packages. -/
theorem Refreshed.mem_flatMap_iff (h : Refreshed name pkg pkg') {α : Type} {find : File → List α} {a : α}
    (ha : ∀ f, IsCopy name f → a ∉ find f) : a ∈ pkg.files.flatMap find ↔ a ∈ pkg'.files.flatMap find := by
  obtain ⟨before, old, new, after, hfiles, hfiles', hcopies⟩ := h.files
  have hcopy (files : List File) (hsub : ∀ f ∈ files, IsCopy name f) : a ∉ files.flatMap find := by
    intro hmem
    obtain ⟨f, hf, hmem⟩ := List.mem_flatMap.mp hmem
    exact ha f (hsub f hf) hmem
  -- Nothing of it stands in the copies, so only the files around them count, which are the same.
  have hold := hcopy old fun f hf => hcopies f (List.mem_append_left _ hf)
  have hnew := hcopy new fun f hf => hcopies f (List.mem_append_right _ hf)
  simp [hfiles, hfiles', List.flatMap_append, hold, hnew]

theorem place_of_mem_objects {f : File} {o : Object} (h : o ∈ Types.File.objects f) :
    ∃ d ∈ f.decls, ∃ id ∈ declIdents d, o.place = id.spot.inFile f.path := by
  obtain ⟨d, hd, ho⟩ := List.mem_flatMap.mp (List.mem_filter.mp h).1
  refine ⟨d, hd, ?_⟩
  cases d with
  | type spec => exact ⟨spec.name, List.mem_singleton_self _, by rw [List.mem_singleton.mp ho]⟩
  | const spec | var spec =>
    obtain ⟨id, hid, rfl⟩ := List.mem_map.mp ho
    exact ⟨id, hid, rfl⟩
  | func spec =>
    dsimp only at ho
    split at ho
    · cases ho
    · exact ⟨spec.name, List.mem_singleton_self _, by rw [List.mem_singleton.mp ho]⟩

/-- A declaration outside all copies is there in both packages. -/
theorem Refreshed.mem_objects_iff (h : Refreshed name pkg pkg') {o : Object}
    (ho : Path.base o.place.file ≠ Bytes.ofString name) :
    o ∈ objectsOf pkg.files ↔ o ∈ objectsOf pkg'.files := by
  refine h.mem_flatMap_iff fun f hf hmem => ?_
  obtain ⟨d, hd, id, hid, hplace⟩ := place_of_mem_objects hmem
  exact ho (hplace ▸ hf d hd id hid)

theorem isTaken_iff {f : GeneratedFile} (hunique : ((objectsOf f.package.files).map Object.name).Nodup)
    (name : String) : f.isTaken name = true ↔
      ∃ o ∈ objectsOf f.package.files, o.name = name ∧ Path.base o.place.file ≠ Bytes.ofString f.name := by
  refine (any_find?_key_iff hunique name _).trans ?_
  simp [GeneratedFile.isElsewhere]

/-- The same names are taken in both packages. -/
theorem isTaken_refreshed {f f' : GeneratedFile} (hname : f'.name = f.name)
    (h : Refreshed f.name f.package f'.package) (name : String) : f'.isTaken name = f.isTaken name := by
  rw [Bool.eq_iff_iff, isTaken_iff h.unique, isTaken_iff h.unique', hname]
  constructor
  · rintro ⟨o, ho, honame, helsewhere⟩
    exact ⟨o, (h.mem_objects_iff helsewhere).mpr ho, honame, helsewhere⟩
  · rintro ⟨o, ho, honame, helsewhere⟩
    exact ⟨o, (h.mem_objects_iff helsewhere).mp ho, honame, helsewhere⟩

end

def methodsIn (names : List String) (file : File) : List (File × FuncSpec × Receiver) :=
  file.decls.filterMap fun
    | .func spec => match spec.receiver with
      | some r => if names.contains r.base.name then some (file, spec, r) else none
      | none => none
    | _ => none

theorem func_of_mem_methodsIn {names : List String} {file : File} {x : File × FuncSpec × Receiver}
    (h : x ∈ methodsIn names file) : x.1 = file ∧ .func x.2.1 ∈ file.decls := by
  obtain ⟨d, hd, hx⟩ := List.mem_filterMap.mp h
  cases d with
  | func spec =>
    dsimp only at hx
    split at hx
    · obtain ⟨-, hsome⟩ := Option.ite_none_right_eq_some.mp hx
      obtain rfl := Option.some.inj hsome
      exact ⟨rfl, hd⟩
    · cases hx
  | type | const | var => cases hx

def methodPlace (x : File × FuncSpec × Receiver) : Place := x.2.1.name.spot.inFile x.1.path

/-- A struct without embedded fields has the same fields in two packages, and the same names lead to it.
The names of its fields and methods tell them apart. -/
structure FlatAlike (p p' : Program) (pkg pkg' : Package) (n : TypeName) : Prop where
  package : n.package = some pkg.id
  names : pkg'.namesFor n.name = pkg.namesFor n.name
  type : p.typeOf n = .named n []
  type' : p'.typeOf n = .named n []
  flat : ∀ f ∈ (body p p.fuel (.named n [])).fields, f.isEmbedded = false
  flat' : ∀ f ∈ (body p' p'.fuel (.named n [])).fields, f.isEmbedded = false
  fields : (body p' p'.fuel (.named n [])).fields.map (fun f => (f.id, f.place)) =
    (body p p.fuel (.named n [])).fields.map fun f => (f.id, f.place)
  unique : ((ownMembers p p.fuel n).map Member.id).Nodup
  unique' : ((ownMembers p' p'.fuel n).map Member.id).Nodup

instance (p p' : Program) (pkg pkg' : Package) (n : TypeName) : Decidable (FlatAlike p p' pkg pkg' n) :=
  decidable_of_iff
    (n.package = some pkg.id ∧ pkg'.namesFor n.name = pkg.namesFor n.name ∧ p.typeOf n = .named n [] ∧
      p'.typeOf n = .named n [] ∧ (∀ f ∈ (body p p.fuel (.named n [])).fields, f.isEmbedded = false) ∧
      (∀ f ∈ (body p' p'.fuel (.named n [])).fields, f.isEmbedded = false) ∧
      (body p' p'.fuel (.named n [])).fields.map (fun f => (f.id, f.place)) =
        (body p p.fuel (.named n [])).fields.map (fun f => (f.id, f.place)) ∧
      ((ownMembers p p.fuel n).map Member.id).Nodup ∧ ((ownMembers p' p'.fuel n).map Member.id).Nodup)
    ⟨fun ⟨a, b, c, d, e, f, g, h, i⟩ => ⟨a, b, c, d, e, f, g, h, i⟩,
      fun ⟨a, b, c, d, e, f, g, h, i⟩ => ⟨a, b, c, d, e, f, g, h, i⟩⟩

section
variable {p p' : Program} {pkg pkg' : Package} {n : TypeName}

theorem exists_declaredMethod_iff (hn : n.package = some pkg.id) (hpkg : p.package? pkg.id = some pkg)
    {fuel : Nat} (hfuel : 0 < fuel) (q : MemberId → Option Place → Prop) :
    (∃ m ∈ declaredMethods p fuel n [], q m.id m.place) ↔
      ∃ x ∈ pkg.methods n.name, q (.of pkg.path x.2.1.name.name) (some (methodPlace x)) := by
  obtain ⟨fuel, rfl⟩ := Nat.exists_eq_add_one.mpr hfuel
  simp only [declaredMethods, hn, Option.bind_some, hpkg, List.mem_map]
  constructor
  · rintro ⟨_, ⟨x, hx, rfl⟩, hq⟩
    exact ⟨x, hx, hq⟩
  · rintro ⟨x, hx, hq⟩
    exact ⟨_, ⟨x, hx, rfl⟩, hq⟩

/-- A method outside all copies is there in both packages. -/
theorem Refreshed.mem_methods_iff {name : String} (h : Refreshed name pkg pkg')
    (hnames : pkg'.namesFor n.name = pkg.namesFor n.name) {x : File × FuncSpec × Receiver}
    (hx : Path.base (methodPlace x).file ≠ Bytes.ofString name) :
    x ∈ pkg.methods n.name ↔ x ∈ pkg'.methods n.name := by
  have hmethods (pkg : Package) :
      pkg.methods n.name = pkg.files.flatMap (methodsIn (pkg.namesFor n.name)) := rfl
  rw [hmethods, hmethods, hnames]
  refine h.mem_flatMap_iff fun f hf hmem => ?_
  obtain ⟨rfl, hdecl⟩ := func_of_mem_methodsIn hmem
  exact hx (hf _ hdecl _ (List.mem_singleton_self _))

/-- Whether a member with a name is taken in a struct without embedded fields. -/
theorem any_lookup_iff {fields : List StructField} (hbody : body p p.fuel (.named n []) = .struct fields)
    (hflat : ∀ f ∈ fields, f.isEmbedded = false) (hunique : ((ownMembers p p.fuel n).map Member.id).Nodup)
    {id : MemberId} (hid : id.name ≠ "_") (q : Option Place → Bool) :
    ((lookup p p.fuel (.pointer (.named n [])) false id).any fun m => q m.place) = true ↔
      (∃ m ∈ declaredMethods p p.fuel n [], m.id = id ∧ q m.place = true) ∨
        ∃ f ∈ fields, f.id = id ∧ q f.place = true := by
  rw [lookup_of_flat hbody hflat hid, any_find?_key_iff hunique id]
  simp only [ownMembers, hbody, Body.fields, List.mem_append, List.mem_map]
  constructor
  · rintro ⟨_, ⟨m, hm, rfl⟩ | ⟨f, hf, rfl⟩, hid, hq⟩
    · exact .inl ⟨m, hm, hid, hq⟩
    · exact .inr ⟨f, hf, hid, hq⟩
  · rintro (⟨m, hm, hid, hq⟩ | ⟨f, hf, hid, hq⟩)
    · exact ⟨.method m, .inl ⟨m, hm, rfl⟩, hid, hq⟩
    · exact ⟨.field f, .inr ⟨f, hf, rfl⟩, hid, hq⟩

theorem exists_field_iff {fields fields' : List StructField}
    (h : fields'.map (fun f => (f.id, f.place)) = fields.map fun f => (f.id, f.place))
    (q : MemberId → Option Place → Prop) :
    (∃ f ∈ fields', q f.id f.place) ↔ ∃ f ∈ fields, q f.id f.place := by
  have hpairs (fields : List StructField) : (∃ f ∈ fields, q f.id f.place) ↔
      ∃ x ∈ fields.map fun f => (f.id, f.place), q x.1 x.2 := by
    constructor
    · rintro ⟨f, hf, hq⟩
      exact ⟨_, List.mem_map_of_mem hf, hq⟩
    · rintro ⟨_, hx, hq⟩
      obtain ⟨f, hf, rfl⟩ := List.mem_map.mp hx
      exact ⟨f, hf, hq⟩
  rw [hpairs, hpairs, h]

/-- The same members are taken in both packages. -/
theorem any_lookup_refreshed {f f' : GeneratedFile} (hname : f'.name = f.name)
    (h : Refreshed f.name f.package f'.package)
    (hpkg : p.package? f.package.id = some f.package)
    (hpkg' : p'.package? f.package.id = some f'.package)
    (hn : FlatAlike p p' f.package f'.package n)
    (hstruct : (body p p.fuel (p.typeOf n)).isStruct) (hstruct' : (body p' p'.fuel (p'.typeOf n)).isStruct)
    (name : String) :
    ((lookup p' p'.fuel (.pointer (p'.typeOf n)) false (.of f'.package.path name)).any
        fun m => f'.isElsewhere m.place) =
      (lookup p p.fuel (.pointer (p.typeOf n)) false (.of f.package.path name)).any
        fun m => f.isElsewhere m.place := by
  rw [h.path_eq, hn.type, hn.type']
  rw [hn.type] at hstruct
  rw [hn.type'] at hstruct'
  have helsewhere : f'.isElsewhere = f.isElsewhere := by
    funext place
    simp only [GeneratedFile.isElsewhere, hname]
  generalize MemberId.of f.package.path name = id
  by_cases hid : id.name = "_"
  · simp [lookup, TypeView.lookup, hid]
  -- The methods may differ in the two packages, but not those that stand outside all copies.
  have hmethods : (∃ m ∈ declaredMethods p' p'.fuel n [], m.id = id ∧ f.isElsewhere m.place = true) ↔
      ∃ m ∈ declaredMethods p p.fuel n [], m.id = id ∧ f.isElsewhere m.place = true := by
    rw [exists_declaredMethod_iff (h.id_eq ▸ hn.package) (h.id_eq ▸ hpkg') p'.fuel_pos fun i place =>
        i = id ∧ f.isElsewhere place = true,
      exists_declaredMethod_iff hn.package hpkg p.fuel_pos fun i place =>
        i = id ∧ f.isElsewhere place = true, h.path_eq]
    refine exists_congr fun x => and_congr_left fun hx => (h.mem_methods_iff hn.names ?_).symm
    simpa [GeneratedFile.isElsewhere] using hx.2
  rw [Bool.eq_iff_iff, helsewhere,
    any_lookup_iff (Body.eq_struct_of_isStruct hstruct) hn.flat hn.unique hid,
    any_lookup_iff (Body.eq_struct_of_isStruct hstruct') hn.flat' hn.unique' hid, hmethods,
    exists_field_iff hn.fields fun i place => i = id ∧ f.isElsewhere place = true]

end

end ServiceAnnotations.Companion
