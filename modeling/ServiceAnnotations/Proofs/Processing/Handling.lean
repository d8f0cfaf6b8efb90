import ServiceAnnotations.Processing.Run
import ServiceAnnotations.Proofs.Elements.Confinement
import ServiceAnnotations.Proofs.Elements.Fields
import ServiceAnnotations.Proofs.Processing.Refresh

/-! # What generators do about fields

The generators go by the fields that are known of a type. They leave none of these out: for each one something is
declared, or a diagnostic says why not. So all fields of a struct are handled if it is written in the declaration of its
type, and none if the type is declared by way of another one. -/
namespace ServiceAnnotations.Processing
open Companion Elements Registry Source ServiceAnnotations.Types

structure Work.Grows (w w' : Work) : Prop where
  decls : w.file.decls ⊆ w'.file.decls
  reports : w.reports ⊆ w'.reports
  first : w.first.isSome → w'.first.isSome

theorem Work.Grows.refl (w : Work) : w.Grows w := ⟨fun _ h => h, fun _ h => h, id⟩

theorem Work.Grows.trans {w w₁ w' : Work} (h₁ : w.Grows w₁) (h₂ : w₁.Grows w') : w.Grows w' :=
  ⟨List.Subset.trans h₁.decls h₂.decls, List.Subset.trans h₁.reports h₂.reports, h₂.first ∘ h₁.first⟩

def Stays (good : Work → Prop) : Prop := ∀ ⦃w w' : Work⦄, w.Grows w' → good w → good w'

namespace Generate

/-- What a step comes to: it adds to the work, and either `good` holds of the work then or the step breaks down and
`bad` holds. -/
structure Ends (x : Generate Unit) (good : Work → Prop) (bad : Prop) : Prop where
  grows : ∀ w : Work, w.Grows (x.run w).2
  ok : ∀ w, (x.run w).1 = .ok () → good (x.run w).2
  error : ∀ w, (x.run w).1 = .error () → bad

namespace Ends
variable {x y : Generate Unit} {good good' : Work → Prop} {bad bad' : Prop}

theorem ok_of_run (h : Ends x good bad) {w w' : Work} (hrun : x.run w = (.ok (), w')) : good w' := by
  have hok := h.ok w
  rw [hrun] at hok
  exact hok rfl

theorem error_of_run (h : Ends x good bad) {w w' : Work} (hrun : x.run w = (.error (), w')) : bad := by
  have herror := h.error w
  rw [hrun] at herror
  exact herror rfl

theorem imp (h : Ends x good bad) (hgood : ∀ w, good w → good' w) (hbad : bad → bad') : Ends x good' bad' :=
  ⟨h.grows, fun w hw => hgood _ (h.ok w hw), fun w hw => hbad (h.error w hw)⟩

theorem pure (hgood : ∀ w, good w) : Ends (Pure.pure ()) good bad :=
  ⟨fun w => .refl w, fun w _ => hgood w, fun _ h => by cases h⟩

theorem throw (hbad : bad) : Ends (throw ()) good bad :=
  ⟨fun w => .refl w, fun _ h => (by cases h), fun _ _ => hbad⟩

theorem report (severity : Severity) (pos : Place) (text : Bytes) :
    Ends (Generate.report severity pos text) (⟨severity, pos, text⟩ ∈ ·.reports) bad where
  grows _ := ⟨fun _ h => h, List.subset_append_left _ _, id⟩
  ok _ _ := List.mem_append_right _ List.mem_cons_self
  error _ h := by cases h

theorem add (d : Declaration) : Ends (Generate.add d) (d ∈ ·.file.decls) bad where
  grows _ := ⟨List.subset_append_left _ _, fun _ h => h, id⟩
  ok _ _ := List.mem_append_right _ List.mem_cons_self
  error _ h := by cases h

theorem generated (pos : Place) : Ends (modify (·.generated pos)) (·.first.isSome) bad where
  grows w := ⟨fun _ h => h, fun _ h => h, fun h => by
    change (w.first.or (some pos)).isSome
    rw [Option.isSome_or, h, Bool.true_or]⟩
  ok w _ := by
    change (w.first.or (some pos)).isSome
    rw [Option.isSome_or, Option.isSome_some, Bool.or_true]
  error _ h := by cases h

theorem bind (hx : Ends x good bad) (hy : Ends y good' bad) (hstays : Stays good) :
    Ends (x >>= fun _ => y) (fun w => good w ∧ good' w) bad where
  grows w := by
    have hgrows := hx.grows w
    rw [run_bind x (fun _ => y) w]
    rcases hw : x.run w with ⟨_ | _, w₁⟩ <;> rw [hw] at hgrows
    · exact hgrows
    · exact hgrows.trans (hy.grows w₁)
  ok w := by
    have hgood := hx.ok w
    rw [run_bind x (fun _ => y) w]
    rcases hw : x.run w with ⟨_ | _, w₁⟩ <;> rw [hw] at hgood
    · exact fun h => by cases h
    · exact fun h => ⟨hstays (hy.grows w₁) (hgood rfl), hy.ok w₁ h⟩
  error w := by
    have hbad := hx.error w
    rw [run_bind x (fun _ => y) w]
    rcases hw : x.run w with ⟨_ | _, w₁⟩ <;> rw [hw] at hbad
    · exact fun _ => hbad rfl
    · exact fun h => hy.error w₁ h

theorem get_bind {k : Work → Generate Unit} (hk : ∀ w, Ends (k w) good bad) : Ends (get >>= k) good bad where
  grows w := (hk w).grows w
  ok w := (hk w).ok w
  error w := (hk w).error w

/-- Steps over a list come to what each of them comes to. -/
theorem each {α : Type} {f : α → Generate Unit} {good : α → Work → Prop} {as : List α}
    (hf : ∀ a ∈ as, Ends (f a) (good a) bad) (hstays : ∀ a, Stays (good a)) :
    Ends (Generate.each f as) (fun w => ∀ a ∈ as, good a w) bad := by
  induction as with
  | nil => exact .pure fun _ a ha => by cases ha
  | cons a as ih =>
    obtain ⟨hfirst, hrest⟩ := List.forall_mem_cons.mp hf
    exact (hfirst.bind (ih hrest) (hstays a)).imp (fun w hw => List.forall_mem_cons.mpr hw) id

end Ends

end Generate

def Declares (writer : Writer) (p : Program) (make : Shape → Declaration) (i : FieldInfo) (w : Work) : Prop :=
  ∃ s, writer.type? p i.scope i.type = some s ∧ make s ∈ w.file.decls

def Warns (text : Bytes) (i : FieldInfo) (w : Work) : Prop := ⟨.warning, i.pos, text⟩ ∈ w.reports

/-- A field is handled: something is declared for it in a file that is written, or a warning says why not. -/
def Handles (writer : Writer) (p : Program) (make : Shape → Declaration) (warning : Bytes) (i : FieldInfo) (w : Work) : Prop :=
  (Declares writer p make i w ∧ w.first.isSome) ∨ Warns warning i w

def HasUnwritable (writer : Writer) (p : Program) (fields : List FieldInfo) : Prop :=
  ∃ i ∈ fields, i.name ≠ "_" ∧ writer.type? p i.scope i.type = none

section
variable {writer : Writer} {p : Program} {make : Shape → Declaration} {i : FieldInfo} {text : Bytes}

theorem stays_declares : Stays (Declares writer p make i) := fun _ _ h ⟨s, hs, hmem⟩ => ⟨s, hs, h.decls hmem⟩

theorem stays_warns : Stays (Warns text i) := fun _ _ h hmem => h.reports hmem

theorem stays_handles : Stays (Handles writer p make text i) := fun _ _ h hw =>
  hw.imp (fun ⟨hdecl, hfirst⟩ => ⟨stays_declares h hdecl, h.first hfirst⟩) (stays_warns h)

end

/-- A step that is about the struct type of an element comes to what it comes to for that type. Without a struct type
it just reports. -/
theorem ends_of_target {p : Program} {known : Known} {f : Found} {severity : Severity} {pos : Place} {text : Bytes}
    {x : Generate Unit} {good : Target → Work → Prop} {bad : Target → Prop}
    (hnone : target? p known f = none → x = Generate.report severity pos text)
    (hsome : ∀ t, target? p known f = some t → Generate.Ends x (good t) (bad t)) :
    Generate.Ends x (fun w => ∀ t, target? p known f = some t → good t w)
      (∃ t, target? p known f = some t ∧ bad t) := by
  cases htarget : target? p known f with
  | none =>
    rw [hnone htarget]
    exact (Generate.Ends.report _ _ _).imp (fun _ _ _ ht => by cases ht) id
  | some t =>
    refine (hsome t htarget).imp (fun _ hw _ ht => ?_) fun hbad => ⟨t, rfl, hbad⟩
    cases ht
    exact hw

def setterName (i : FieldInfo) : String := "Set" ++ capitalized i.name

/-- The warning for a name that is taken. -/
def takenText (owner name : String) : Bytes :=
  Bytes.ofString ("cannot generate " ++ owner ++ "." ++ name ++ ": the name is already declared")

/-- Every field of a struct type without parameters is handled, blank ones apart. -/
def SetsFields (writer : Writer) (p : Program) (known : Known) (f : Found) (w : Work) : Prop :=
  ∀ t, target? p known f = some t → t.isGeneric = false → ∀ i ∈ t.fields, i.name ≠ "_" →
    Handles writer p (.setter t.type.name i.name (setterName i)) (takenText t.type.name (setterName i)) i w

theorem stays_setsFields {writer : Writer} {p : Program} {known : Known} (f : Found) : Stays (SetsFields writer p known f) :=
  fun _ _ h hw t ht hgeneric i hi hname => stays_handles h (hw t ht hgeneric i hi hname)

theorem generateSetter_ends (writer : Writer) (p : Program) (t : Target) (i : FieldInfo) :
    Generate.Ends (generateSetter writer p t i)
      (fun w => i.name ≠ "_" →
        Handles writer p (.setter t.type.name i.name (setterName i)) (takenText t.type.name (setterName i)) i w)
      (i.name ≠ "_" ∧ writer.type? p i.scope i.type = none) := by
  unfold generateSetter
  split
  · rename_i hblank
    exact .pure fun _ hname => absurd hblank hname
  · rename_i hname
    refine .get_bind fun w => ?_
    dsimp only
    split
    · exact (Generate.Ends.report _ _ _).imp (fun _ h _ => .inr h) id
    · cases hshape : writer.type? p i.scope i.type with
      | none => exact .throw ⟨hname, rfl⟩
      | some s =>
        exact ((Generate.Ends.add _).bind (.generated t.pos) fun _ _ h hmem => h.decls hmem).imp
          (fun _ h _ => .inl ⟨⟨s, hshape, h.1⟩, h.2⟩) id

theorem generateSetters_ends (writer : Writer) (p : Program) (known : Known) (f : Found) :
    Generate.Ends (generateSetters writer p known f) (SetsFields writer p known f)
      (∃ t, target? p known f = some t ∧ HasUnwritable writer p t.fields) := by
  refine ends_of_target (fun h => by rw [generateSetters, h]) fun t h => ?_
  rw [generateSetters, h]
  dsimp only
  split
  · rename_i hgeneric
    exact (Generate.Ends.report _ _ _).imp (fun _ _ hnot => by cases hgeneric.symm.trans hnot) id
  · have heach : Generate.Ends (Generate.each (generateSetter writer p t) t.fields) _ (HasUnwritable writer p t.fields) :=
      .each (fun i hi => (generateSetter_ends writer p t i).imp (fun _ h => h) fun hbad => ⟨i, hi, hbad⟩)
        (fun i _ _ h hw hname => stays_handles h (hw hname))
    exact heach.imp (fun _ hw _ => hw) id

def exportedText (t : Target) (i : FieldInfo) : Bytes :=
  Bytes.ofString ("field " ++ i.name ++ " of immutable type ") ++ t.element.decl.qualifiedName ++
    Bytes.ofString " is exported and can be reassigned"

def sameGetterText (view : String) (i : FieldInfo) : Bytes :=
  Bytes.ofString ("cannot generate " ++ view ++ "." ++ capitalized i.name ++ ": another field has the same getter")

def viewName (t : Target) : String := t.type.name ++ "Immutable"

def WarnsExported (p : Program) (known : Known) (f : Found) (w : Work) : Prop :=
  ∀ t, target? p known f = some t → ∀ i ∈ t.fields, isExported i.name → Warns (exportedText t i) i w

/-- A name that the view of a type needs is taken, and an error says so. -/
def ViewTaken (t : Target) (w : Work) : Prop :=
  ∃ name ∈ [viewName t, "New" ++ viewName t],
    ⟨.error, t.pos, Bytes.ofString ("cannot generate " ++ name ++ ": the name is already declared")⟩ ∈ w.reports

/-- Every field of a struct type without parameters is handled, blank ones apart, unless there is no view of the type
at all. -/
def ViewsFields (writer : Writer) (p : Program) (known : Known) (f : Found) (w : Work) : Prop :=
  ∀ t, target? p known f = some t → t.isGeneric = false → ViewTaken t w ∨ ∀ i ∈ t.fields, i.name ≠ "_" →
    Handles writer p (.getter (viewName t) i.name (capitalized i.name)) (sameGetterText (viewName t) i) i w

theorem stays_warnsExported {p : Program} {known : Known} (f : Found) : Stays (WarnsExported p known f) :=
  fun _ _ h hw t ht i hi hname => stays_warns h (hw t ht i hi hname)

theorem stays_viewsFields {writer : Writer} {p : Program} {known : Known} (f : Found) : Stays (ViewsFields writer p known f) := by
  intro w w' h hw t ht hgeneric
  rcases hw t ht hgeneric with ⟨name, hmem, htaken⟩ | hfields
  · exact .inl ⟨name, hmem, h.reports htaken⟩
  · exact .inr fun i hi hname => stays_handles h (hfields i hi hname)

theorem analyzeFields_ends {bad : Prop} (t : Target) :
    Generate.Ends (analyzeFields t) (fun w => ∀ i ∈ t.fields, isExported i.name → Warns (exportedText t i) i w)
      bad := by
  refine .each (fun i _ => ?_) fun i _ _ h hw hname => stays_warns h (hw hname)
  split
  · exact (Generate.Ends.report _ _ _).imp (fun _ h _ => h) id
  · rename_i hname
    exact .pure fun _ h => absurd h hname

theorem generateGetters_ends (writer : Writer) (p : Program) (view : String) (seen : List String) (infos : List FieldInfo) :
    Generate.Ends (generateGetters writer p view seen infos)
      (fun w => ∀ i ∈ infos, i.name ≠ "_" →
        Declares writer p (.getter view i.name (capitalized i.name)) i w ∨ Warns (sameGetterText view i) i w)
      (HasUnwritable writer p infos) := by
  induction infos generalizing seen with
  | nil => exact .pure fun _ i hi => by cases hi
  | cons i infos ih =>
    have hrest : ∀ seen, Generate.Ends (generateGetters writer p view seen infos) _ (HasUnwritable writer p (i :: infos)) :=
      fun seen => (ih seen).imp (fun _ h => h) fun ⟨j, hj, hbad⟩ => ⟨j, List.mem_cons_of_mem i hj, hbad⟩
    rw [generateGetters]
    split
    · rename_i hblank
      exact (hrest seen).imp (fun _ h => List.forall_mem_cons.mpr ⟨fun hname => absurd hblank hname, h⟩) id
    · rename_i hname
      dsimp only
      split
      · exact ((Generate.Ends.report _ _ _).bind (hrest seen) fun _ _ h hmem => h.reports hmem).imp
          (fun _ h => List.forall_mem_cons.mpr ⟨fun _ => .inr h.1, h.2⟩) id
      · cases hshape : writer.type? p i.scope i.type with
        | none => exact .throw ⟨i, List.mem_cons_self, hname, hshape⟩
        | some s =>
          exact ((Generate.Ends.add _).bind (hrest _) fun _ _ h hmem => h.decls hmem).imp
            (fun _ h => List.forall_mem_cons.mpr ⟨fun _ => .inl ⟨s, hshape, h.1⟩, h.2⟩) id

theorem generateView_ends (writer : Writer) (p : Program) (t : Target) :
    Generate.Ends (generateView writer p t)
      (fun w => t.isGeneric = false → ViewTaken t w ∨ ∀ i ∈ t.fields, i.name ≠ "_" →
        Handles writer p (.getter (viewName t) i.name (capitalized i.name)) (sameGetterText (viewName t) i) i w)
      (HasUnwritable writer p t.fields) := by
  unfold generateView
  dsimp only
  split
  · rename_i hgeneric
    exact (Generate.Ends.report _ _ _).imp (fun _ _ hnot => by cases hgeneric.symm.trans hnot) id
  · refine .get_bind fun w => ?_
    split
    · rename_i name hfind
      exact (Generate.Ends.report _ _ _).imp
        (fun _ h _ => .inl ⟨name, List.mem_of_find?_eq_some hfind, h⟩) id
    · have hgetters := (generateGetters_ends writer p (viewName t) [] t.fields).bind (.generated t.pos)
        fun _ _ h hw i hi hname => (hw i hi hname).imp (stays_declares h) (stays_warns h)
      have hview := (Generate.Ends.add (.viewType (viewName t) t.type.name)).bind
        ((Generate.Ends.add (.viewConstructor (viewName t) t.type.name)).bind hgetters
          fun _ _ h hmem => h.decls hmem) fun _ _ h hmem => h.decls hmem
      -- the file is written once the getters are there
      exact hview.imp (fun _ ⟨_, _, hfields, hfirst⟩ _ => .inr fun i hi hname =>
        (hfields i hi hname).imp (⟨·, hfirst⟩) id) id

theorem generateImmutable_analyze_ends {bad : Prop} (writer : Writer) (p : Program) (known : Known) (f : Found) :
    Generate.Ends (generateImmutable .analyze writer p known f) (WarnsExported p known f) bad := by
  have hends : Generate.Ends (generateImmutable .analyze writer p known f) (WarnsExported p known f)
      (∃ t, target? p known f = some t ∧ False) := by
    refine ends_of_target (fun h => by rw [generateImmutable, h]) fun t h => ?_
    rw [generateImmutable, h]
    exact analyzeFields_ends t
  refine hends.imp (fun _ h => h) ?_
  rintro ⟨_, _, ⟨⟩⟩

theorem generateImmutable_generate_ends (writer : Writer) (p : Program) (known : Known) (f : Found) :
    Generate.Ends (generateImmutable .generate writer p known f) (ViewsFields writer p known f)
      (∃ t, target? p known f = some t ∧ HasUnwritable writer p t.fields) := by
  refine ends_of_target (fun h => by rw [generateImmutable, h]) fun t h => ?_
  rw [generateImmutable, h]
  exact generateView_ends writer p t

/-- The session that a generator leaves with its work. -/
def Work.leave {σ : Type} (env : Environment) (w : Work) (s : Session σ) : Session σ :=
  let s := w.reports.foldl Session.report s
  match w.first with
  | some pos => writeGenerated env w.file pos s
  | none => s

/-- What a processor makes of a package: it leaves work of which `good` holds, or it breaks down and `bad` holds. -/
def Processor.Makes {σ : Type} (env : Environment) (p : Processor σ) (pkg : Package) (found : List Found)
    (known : Known) (good : Work → Prop) (bad : Prop) : Prop :=
  ∃ w : Work,
    (good w ∧ ∀ s, p.process env (.package pkg found known) s = (.ok (), p, w.leave env s)) ∨
      (bad ∧ ∀ s, p.process env (.package pkg found known) s =
        (.error .broken, p, w.reports.foldl Session.report s))

section
variable {σ : Type} {env : Environment} {pkg : Package} {found : List Found} {known : Known}

/-- The work that a generator does on the elements with its annotation. -/
def generatorRun (env : Environment) (annot suffix : String) (generate : Program → Known → Found → Generate Unit)
    (pkg : Package) (found : List Found) (known : Known) : Except Unit Unit × Work :=
  (Generate.each (generate env.program known) (annotatedWith found annot)).run { file := .new pkg suffix }

section
variable {p : Processor σ} {annot suffix : String} {generate : Program → Known → Found → Generate Unit}
  (hp : ∀ s, p.process env (.package pkg found known) s =
    ((runGenerator env annot suffix generate pkg found known s).1, p,
      (runGenerator env annot suffix generate pkg found known s).2))
include hp

/-- A processor that runs a generator leaves the work of the generator. -/
theorem process_of_run {w : Work} (hrun : generatorRun env annot suffix generate pkg found known = (.ok (), w))
    (s : Session σ) : p.process env (.package pkg found known) s = (.ok (), p, w.leave env s) := by
  unfold generatorRun at hrun
  rw [hp]
  simp only [runGenerator, hrun, Work.leave]
  cases w.first <;> rfl

theorem makes_of_run {good : Work → Prop} {bad : Prop}
    (hok : ∀ w, generatorRun env annot suffix generate pkg found known = (.ok (), w) → good w)
    (herror : ∀ w, generatorRun env annot suffix generate pkg found known = (.error (), w) → bad) :
    p.Makes env pkg found known good bad := by
  rcases hrun : generatorRun env annot suffix generate pkg found known with ⟨_ | _, w⟩
  · refine ⟨w, .inr ⟨herror w hrun, fun s => ?_⟩⟩
    unfold generatorRun at hrun
    rw [hp]
    simp only [runGenerator, hrun]
  · exact ⟨w, .inl ⟨hok w hrun, process_of_run hp hrun⟩⟩

theorem makes_of_ends {good : Work → Prop} {bad : Prop}
    (hends : Generate.Ends (Generate.each (generate env.program known) (annotatedWith found annot)) good bad) :
    p.Makes env pkg found known good bad :=
  makes_of_run hp (fun _ hrun => hends.ok_of_run hrun) fun _ hrun => hends.error_of_run hrun

end

/-- A type of an element with an annotation has a field that can be read and whose type cannot be written. -/
def BreaksDown (writer : Writer) (p : Program) (known : Known) (found : List Found) (annot : String) : Prop :=
  ∃ f ∈ annotatedWith found annot, ∃ t, target? p known f = some t ∧ HasUnwritable writer p t.fields

/-- A generator comes to what it comes to for each of the elements with its annotation. -/
theorem ends_annotatedWith {writer : Writer} {p : Program} {annot : String} {generate : Program → Known → Found → Generate Unit}
    {good : Found → Work → Prop} (hstays : ∀ f, Stays (good f))
    (hf : ∀ f, Generate.Ends (generate p known f) (good f)
      (∃ t, target? p known f = some t ∧ HasUnwritable writer p t.fields)) :
    Generate.Ends (Generate.each (generate p known) (annotatedWith found annot))
      (fun w => ∀ f ∈ annotatedWith found annot, good f w) (BreaksDown writer p known found annot) :=
  .each (fun f hmem => (hf f).imp (fun _ h => h) fun h => ⟨f, hmem, h⟩) hstays

theorem setters_makes :
    (Processor.setters : Processor σ).Makes env pkg found known
      (fun w => ∀ f ∈ annotatedWith found "Setter", SetsFields env.writer env.program known f w)
      (BreaksDown env.writer env.program known found "Setter") :=
  makes_of_ends (fun _ => rfl) (ends_annotatedWith stays_setsFields (generateSetters_ends env.writer env.program known))

theorem immutable_analyze_makes :
    (Processor.immutable .analyze : Processor σ).Makes env pkg found known
      (fun w => ∀ f ∈ annotatedWith found "Immutable", WarnsExported env.program known f w) False :=
  makes_of_ends (fun _ => rfl)
    (.each (fun f _ => generateImmutable_analyze_ends env.writer env.program known f) stays_warnsExported)

theorem immutable_generate_makes :
    (Processor.immutable .generate : Processor σ).Makes env pkg found known
      (fun w => ∀ f ∈ annotatedWith found "Immutable", ViewsFields env.writer env.program known f w)
      (BreaksDown env.writer env.program known found "Immutable") :=
  makes_of_ends (fun _ => rfl)
    (ends_annotatedWith stays_viewsFields (generateImmutable_generate_ends env.writer env.program known))

end

/-- What is known once packages have been scanned, whether or not their annotations are in error. -/
def knownAfter (p : Program) (before : List Package) : Known := before.foldl (fun k pkg => (scan p pkg k).2) {}

/-- Nothing is known of a type before its own package is scanned. -/
theorem type_knownAfter {p : Program} {pkg : Package} {before : List Package} (h : ∀ q ∈ before, q.id ≠ pkg.id)
    {n : TypeName} (hn : n.package = some pkg.id) : (knownAfter p before).type n = {} := by
  have hall : ∀ k : Known, k.type n = {} → (before.foldl (fun k pkg => (scan p pkg k).2) k).type n = {} := by
    induction before with
    | nil => exact fun _ hk => hk
    | cons q before ih =>
      obtain ⟨hq, hbefore⟩ := List.forall_mem_cons.mp h
      intro k hk
      refine ih hbefore _ ?_
      rw [(scan_agreeOn p q k).type n fun heq => hq (Option.some.inj (heq.symm.trans hn)), hk]
  exact hall {} rfl

/-- What is known of the fields of a type after a scan. The fields that its declaration writes out come after those
that were known before. They and the type are found as elements if they have annotations. If the declaration is a
struct, they are the fields of the underlying type, and generators go by them. -/
structure KnowsFieldsOf (p : Program) (known known' : Known) (found : List Found) (d : DeclaredType) : Prop where
  fields : (known'.type d.typeName).fields = (known.type d.typeName).fields ++ declaredFields p d
  readable : ReadsFields p { package := d.package, file := d.file } d.spec.body
  annotated : docAnnots p { package := d.package, file := d.file } d.spec.doc ≠ [] →
    ∃ f ∈ found, f.type = some d.typeName ∧
      f.element.annots = docAnnots p { package := d.package, file := d.file } d.spec.doc
  elements : ∀ i ∈ declaredFields p d, i.annots ≠ [] →
    ∃ k, ⟨memberElement (typeElement p k d.typeName) i.name i.pos i.annots, none⟩ ∈ found
  underlying : ∀ fields, d.spec.body = .struct fields →
    ∃ fs, body p p.fuel (.named d.typeName []) = .struct fs ∧ fieldNames fs = infoNames (declaredFields p d)
  target : ∀ fields, d.spec.body = .struct fields → d.spec.isAlias = false → ∀ f : Found, f.type = some d.typeName →
    target? p known' f = some
      { type := d.typeName, element := f.element, pos := (known'.type d.typeName).pos,
        fields := (known'.type d.typeName).fields, isGeneric := !d.spec.params.isEmpty }

section
variable {p : Program} {pkg : Package} {d : DeclaredType}
  (hpkg : p.package? pkg.id = some pkg) (hdistinct : (pkg.types.map DeclaredType.typeName).Nodup)
include hpkg hdistinct

theorem declared?_typeName (hd : d ∈ pkg.types) : p.declared? d.typeName = some d := by
  have hsame :
      (fun b : DeclaredType => decide (b.spec.name.name = d.typeName.name) && decide (b.typeName = d.typeName)) =
        fun b => decide (b.typeName = d.typeName) := by
    funext b
    rw [← Bool.decide_and]
    exact decide_eq_decide.mpr ⟨And.right, fun h => ⟨congrArg TypeName.name h, h⟩⟩
  rw [Program.declared?, package_typeName hd, Option.bind_some, hpkg, Option.bind_some, Package.declared?, hsame]
  exact find?_key_of_nodup hdistinct hd

/-- A declared type that is no alias is a type of its own. -/
theorem typeOf_typeName (hid : pkg.id ≠ "unsafe") (hd : d ∈ pkg.types) (halias : d.spec.isAlias = false) :
    p.typeOf d.typeName = .named d.typeName [] := by
  unfold Program.typeOf
  rw [package_typeName hd, declared?_typeName hpkg hdistinct hd]
  split
  · rename_i heq
    cases heq
  · rename_i heq
    exact absurd (Option.some.inj heq) hid
  · obtain ⟨fuel, hfuel⟩ := Nat.exists_eq_succ_of_ne_zero (Nat.ne_of_gt p.fuel_pos)
    rw [hfuel, Option.map_some, resolveMeaning, halias]
    rfl

theorem knowsFieldsOf_scan {loaded : List Package} (hp : p = .settle { packages := loaded }) (hid : pkg.id ≠ "unsafe")
    {known known' : Known} {found : List Found} (hscan : scan p pkg known = (.ok found, known')) (hd : d ∈ pkg.types) :
    KnowsFieldsOf p known known' found d := by
  obtain ⟨hlists, hreads⟩ := scan_lists hscan hdistinct hd
  have hdecl := declared?_typeName hpkg hdistinct hd
  have hunderlying : ∀ fields, d.spec.body = .struct fields →
      ∃ fs, body p p.fuel (.named d.typeName []) = .struct fs ∧ fieldNames fs = infoNames (declaredFields p d) := by
    intro fields hbody
    subst hp
    obtain ⟨fs, hfs, hnames⟩ := body_settle hdecl hbody
    refine ⟨fs, hfs, ?_⟩
    rw [hnames, declaredFields, hbody, infoNames_writtenFields]
  refine ⟨hlists.fields, hreads.fields, hreads.found, hlists.elements, hunderlying, fun fields hbody halias f hf => ?_⟩
  have htype := typeOf_typeName hpkg hdistinct hid hd halias
  obtain ⟨fs, hfs, -⟩ := hunderlying fields hbody
  rw [target?_eq, hf, Option.bind_some, htype, hfs]
  simp [Body.isStruct, Program.isGeneric, hdecl, halias]

end

/-- After a scan of a package that has not been scanned before, the fields of each of its types are those that its
declaration writes out. The generators leave out none of the fields of a struct type with their annotation: each one
that can be read has a setter or a getter in the file, or else a diagnostic says why there is none, and each exported
one has a warning if types are only analyzed. They break down only at a field whose type cannot be written. -/
theorem written_fields_handled {σ : Type} {loaded : List Package} {env : Environment}
    (henv : env.program = .settle { packages := loaded }) {pkg : Package}
    (hpkg : env.program.package? pkg.id = some pkg) (hid : pkg.id ≠ "unsafe")
    (hdistinct : (pkg.types.map DeclaredType.typeName).Nodup) {known known' : Known} {found : List Found}
    (hscan : scan env.program pkg known = (.ok found, known')) :
    (∀ d ∈ pkg.types, KnowsFieldsOf env.program known known' found d) ∧
      (∀ before, (∀ q ∈ before, q.id ≠ pkg.id) → known = knownAfter env.program before →
        ∀ d ∈ pkg.types, (known'.type d.typeName).fields = declaredFields env.program d) ∧
      (Processor.setters : Processor σ).Makes env pkg found known'
        (fun w => ∀ f ∈ annotatedWith found "Setter", SetsFields env.writer env.program known' f w)
        (BreaksDown env.writer env.program known' found "Setter") ∧
      (Processor.immutable .analyze : Processor σ).Makes env pkg found known'
        (fun w => ∀ f ∈ annotatedWith found "Immutable", WarnsExported env.program known' f w) False ∧
      (Processor.immutable .generate : Processor σ).Makes env pkg found known'
        (fun w => ∀ f ∈ annotatedWith found "Immutable", ViewsFields env.writer env.program known' f w)
        (BreaksDown env.writer env.program known' found "Immutable") := by
  have hknows : ∀ d ∈ pkg.types, KnowsFieldsOf env.program known known' found d := fun d hd =>
    knowsFieldsOf_scan hpkg hdistinct henv hid hscan hd
  refine ⟨hknows, ?_, setters_makes, immutable_analyze_makes, immutable_generate_makes⟩
  rintro before hbefore rfl d hd
  rw [(hknows d hd).fields, type_knownAfter hbefore (package_typeName hd)]
  rfl

namespace Points

/-- A struct, and a type that is declared by way of it, both to have setters. -/
def file : Source.File :=
  (Source.File.read? (Bytes.ofString "p/p.go") (Bytes.ofString
    ("package p\n\n// @autoserv.Setter\ntype Point struct\x7b x, _ int; Tag \x7d\n\ntype Tag string\n\n" ++
      "// @autoserv.Setter\ntype Spot Point\n"))).get
    (by decide +kernel)

def pkg : Package := { id := "p", path := "p", name := "p", dir := Bytes.ofString "p", files := [file] }

def environment : Environment where
  options := ∅
  outputDir := Files.Path.here
  sources := .tree
  program := .settle { packages := [pkg] }

def point : TypeName := .member "p" "Point"
def spot : TypeName := .member "p" "Spot"

/-- Whether the fields of `Point` are known after a scan and its setters can be made, while none of the fields of `Spot`
are known. -/
def isHandled : Except Misuse (List Found) × Known → Bool
  | (.error _, _) => false
  | (.ok found, known) =>
    let p := environment.program
    (known.type point).fields.map FieldInfo.name == ["x", "_", "Tag"] &&
      (annotatedWith found "Setter").any (·.type == some point) &&
      ((Processor.setters : Processor Unit).process environment (.package pkg found known)
        { tree := {}, extra := () }).1.isOk &&
      (known.type spot).fields.isEmpty && (annotatedWith found "Setter").any (·.type == some spot) &&
      (body p p.fuel (p.typeOf spot)).fields.map (·.id.name) == ["x", "_", "Tag"] && !p.isGeneric spot &&
      decide (pkg.types.map DeclaredType.typeName).Nodup

theorem isHandled_scan : isHandled (scan environment.program pkg {}) = true := by decide +kernel

theorem package?_pkg : environment.program.package? pkg.id = some pkg := by
  have hpackages : environment.program.packages = [pkg] := packages_settle _
  rw [Program.package?, hpackages]
  rfl

end Points

open Points in
theorem written_fields_handled_point :
    ∃ found known, scan environment.program pkg {} = (.ok found, known) ∧
      (known.type point).fields.map FieldInfo.name = ["x", "_", "Tag"] ∧
      ∃ f ∈ annotatedWith found "Setter", f.type = some point ∧
        ∃ w, SetsFields environment.writer environment.program known f w ∧
          ∀ s : Session Unit, Processor.setters.process environment (.package pkg found known) s =
            (.ok (), .setters, w.leave environment s) := by
  have hcheck := isHandled_scan
  rcases hscan : scan environment.program pkg {} with ⟨_ | found, known⟩ <;> rw [hscan] at hcheck
  · cases hcheck
  · simp only [isHandled, Bool.and_eq_true, beq_iff_eq, List.any_eq_true, decide_eq_true_eq] at hcheck
    obtain ⟨⟨⟨⟨⟨⟨⟨hnames, f, hf, htype⟩, hok⟩, -⟩, -⟩, -⟩, -⟩, hdistinct⟩ := hcheck
    obtain ⟨-, -, ⟨w, ⟨hsets, hprocess⟩ | ⟨-, hprocess⟩⟩, -⟩ :=
      written_fields_handled rfl package?_pkg (by decide) hdistinct hscan
    · exact ⟨found, known, rfl, hnames, f, hf, htype, w, hsets f hf, hprocess⟩
    · rw [hprocess] at hok
      cases hok

open Points in
/-- Of a type that is declared by way of another one no fields are known, even if it is a struct: it has no setters, and
nothing is said about it. -/
theorem derived_fields_unhandled :
    ∃ found known f, scan environment.program pkg {} = (.ok found, known) ∧
      f ∈ annotatedWith found "Setter" ∧ f.type = some spot ∧ environment.program.isGeneric spot = false ∧
      (body environment.program environment.program.fuel (environment.program.typeOf spot)).fields.map (·.id.name) =
        ["x", "_", "Tag"] ∧
      (known.type spot).fields = [] ∧
      ∀ w, (generateSetters environment.writer environment.program known f).run w = (.ok (), w) := by
  have hcheck := isHandled_scan
  rcases hscan : scan environment.program pkg {} with ⟨_ | found, known⟩ <;> rw [hscan] at hcheck
  · cases hcheck
  · simp only [isHandled, Bool.and_eq_true, beq_iff_eq, List.any_eq_true, List.isEmpty_iff, Bool.not_eq_true'] at hcheck
    obtain ⟨⟨⟨⟨⟨-, hfields⟩, f, hf, htype⟩, hnames⟩, hgeneric⟩, -⟩ := hcheck
    refine ⟨found, known, f, rfl, hf, htype, hgeneric, hnames, hfields, fun w => ?_⟩
    have hstruct : (body environment.program environment.program.fuel (environment.program.typeOf spot)).isStruct := by
      revert hnames
      cases body environment.program environment.program.fuel (environment.program.typeOf spot) with
      | struct fs => exact fun _ => rfl
      | _ => exact fun h => by cases h
    have htarget := target?_eq environment.program known f
    rw [htype, Option.bind_some, if_pos hstruct, hfields] at htarget
    rw [generateSetters]
    simp only [htarget, hgeneric]
    rfl

end ServiceAnnotations.Processing
