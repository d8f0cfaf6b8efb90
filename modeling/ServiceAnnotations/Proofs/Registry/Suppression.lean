import ServiceAnnotations.Proofs.Registry.Notes
import ServiceAnnotations.Proofs.Registry.Occurrences

/-! # Suppressed warnings about raw types

A check asks for the exact relation, and only if that is denied for the relation between erased types. A
provider that conforms no more than to the erased interface is accepted with a warning, unless the provider or a
declaration around it suppresses the warning. Of every declaration the first annotation that suppresses
warnings counts. -/
namespace ServiceAnnotations.Registry
open Text

variable {τ σ : Type}

/-- Whether a value is a text, or a list that holds the text at some depth. -/
inductive Value.Holds (s : Bytes) : Value τ → Prop
  | text : Holds s (.text s)
  | list {items : List (Value τ)} {v : Value τ} (hv : v ∈ items) (hs : v.Holds s) : Holds s (.list items)

namespace Value

theorem holds_text_iff {s t : Bytes} : (text t : Value τ).Holds s ↔ s = t := by
  constructor
  · rintro ⟨⟩
    rfl
  · rintro rfl
    exact .text

theorem holds_list_iff {s : Bytes} {items : List (Value τ)} : (list items).Holds s ↔ ∃ v ∈ items, v.Holds s := by
  constructor
  · rintro (_ | ⟨hv, hs⟩)
    exact ⟨_, hv, hs⟩
  · rintro ⟨v, hv, hs⟩
    exact .list hv hs

mutual

theorem mem_texts_iff {s : Bytes} : ∀ v : Value τ, s ∈ v.texts ↔ v.Holds s
  | .type t => by simpa [texts] using fun h : (Value.type t).Holds s => nomatch h
  | .text t => by rw [texts, List.mem_singleton, holds_text_iff]
  | .nothing => by simpa [texts] using fun h : (Value.nothing : Value τ).Holds s => nomatch h
  | .list items => by rw [texts, holds_list_iff, mem_textsOf_iff items]

theorem mem_textsOf_iff {s : Bytes} : ∀ vs : List (Value τ), s ∈ texts.textsOf vs ↔ ∃ v ∈ vs, v.Holds s
  | [] => by simp [texts.textsOf]
  | v :: vs => by
    rw [texts.textsOf, List.mem_append, mem_texts_iff v, mem_textsOf_iff vs, List.exists_mem_cons_iff]

end

end Value

/-- Whether the value of an annotation holds, at any depth, the name of the warning about raw types, with blanks
around it or not. -/
def Annot.SuppressesRawTypes (a : Annot τ) : Prop :=
  ∃ v, a.value? valueElement = some v ∧ ∃ s, v.Holds s ∧ trimBytes s = Bytes.ofString "rawtypes"

/-- Whether the first annotation that suppresses warnings, on a declaration or on one around it, suppresses the
warning about raw types. -/
def Element.RawTypesSuppressed (suppressName : Bytes) (e : Element τ) : Prop :=
  ∃ d ∈ e.decl :: e.outer, ∃ a, IsFirst d.annots suppressName a ∧ a.SuppressesRawTypes

theorem Annot.any_texts_iff {a : Annot τ} :
    a.texts.any (trimBytes · = Bytes.ofString "rawtypes") = true ↔ a.SuppressesRawTypes := by
  unfold Annot.texts Annot.SuppressesRawTypes
  cases a.value? valueElement with
  | none => simp
  | some v => simp [Value.mem_texts_iff]

theorem Element.suppressesRawTypes_iff {suppressName : Bytes} {e : Element τ} :
    e.suppressesRawTypes suppressName = true ↔ e.RawTypesSuppressed suppressName := by
  have hdecl : ∀ annots : List (Annot τ), Registry.suppressesRawTypes suppressName annots = true ↔
      ∃ a, IsFirst annots suppressName a ∧ a.SuppressesRawTypes := by
    intro annots
    simp only [Registry.suppressesRawTypes, Option.any_eq_true, findAnnot_eq_some_iff, Annot.any_texts_iff]
  simp only [Element.suppressesRawTypes, Element.RawTypesSuppressed, List.any_eq_true, hdecl]

def Run.asked (r : Run τ σ) (q : Query τ) (files : σ) : Run τ σ := (r.record (.asked q)).setFiles files

/-- A check of types, as the two answers of the host decide it. -/
theorem check_run_verify (h : Host τ σ) (suppressName shownName : Bytes) (provider : Element τ) (token : τ)
    (interface : TypeRef τ) (annot : Option (Annot τ)) (r : Run τ σ) :
    let exact := h.isSubtype token interface.token r.files
    let erased := h.isErasedSubtype token interface.token exact.2
    let r₁ := r.asked (.exact token interface.token) exact.2
    let r₂ := r₁.asked (.erased token interface.token) erased.2
    (check h .attentive suppressName shownName true provider token interface annot).run r =
      match exact.1 with
      | .error f => (.error f, r₁)
      | .ok true => (.ok .ok, r₁)
      | .ok false =>
        match erased.1 with
        | .error f => (.error f, r₂)
        | .ok false => (.ok .reject, r₂)
        | .ok true =>
          if provider.suppressesRawTypes suppressName then (.ok .ok, r₂)
          else (.ok .rawOk,
            r₂.report (.rawType interface.frame.qualifiedName shownName) (some provider) annot) := by
  simp only [check, Step.report_attentive, Bool.not_true, Bool.false_eq_true, if_false, Step.run_ask_bind]
  rcases h.isSubtype token interface.token r.files with ⟨f | _ | _, files⟩
  · rfl
  · simp only [Run.files_setFiles, Step.run_ask_bind, Bool.false_eq_true, if_false]
    rcases h.isErasedSubtype token interface.token files with ⟨f | _ | _, files'⟩
    · rfl
    · rfl
    · cases provider.suppressesRawTypes suppressName with
      | false => rfl
      | true => rfl
  · rfl

/-- A check of types, in every case: what its caller is told, and the run it leaves behind. -/
theorem check_first_suppression (h : Host τ σ) (suppressName shownName : Bytes) (provider : Element τ) (token : τ)
    (interface : TypeRef τ) (annot : Option (Annot τ)) (r : Run τ σ) :
    let exact := h.isSubtype token interface.token r.files
    let erased := h.isErasedSubtype token interface.token exact.2
    let r₁ := r.asked (.exact token interface.token) exact.2
    let r₂ := r₁.asked (.erased token interface.token) erased.2
    let ran := (check h .attentive suppressName shownName true provider token interface annot).run r
    (exact.1 = .ok true → checkReply ran.1 = some (.ok, none) ∧ ran.2 = r₁) ∧
    (∀ cause, exact.1 = .error (.error cause) → checkReply ran.1 = some (.reject, some cause) ∧ ran.2 = r₁) ∧
    (∀ cause, exact.1 = .error (.broken cause) → ran = (.error (.broken cause), r₁)) ∧
    (exact.1 = .ok false →
      (erased.1 = .ok false → checkReply ran.1 = some (.reject, none) ∧ ran.2 = r₂) ∧
      (∀ cause, erased.1 = .error (.error cause) →
        checkReply ran.1 = some (.reject, some cause) ∧ ran.2 = r₂) ∧
      (∀ cause, erased.1 = .error (.broken cause) → ran = (.error (.broken cause), r₂)) ∧
      (erased.1 = .ok true → provider.RawTypesSuppressed suppressName →
        checkReply ran.1 = some (.ok, none) ∧ ran.2 = r₂) ∧
      (erased.1 = .ok true → ¬ provider.RawTypesSuppressed suppressName →
        checkReply ran.1 = some (.rawOk, none) ∧
        ran.2 = r₂.report (.rawType interface.frame.qualifiedName shownName) (some provider) annot)) := by
  rw [← Element.suppressesRawTypes_iff]
  simp only [check_run_verify]
  rcases h.isSubtype token interface.token r.files with ⟨(cause | cause) | _ | _, files₁⟩
  · simp [checkReply]
  · simp
  · rcases h.isErasedSubtype token interface.token files₁ with ⟨(cause | cause) | _ | _, files₂⟩
    · simp [checkReply]
    · simp
    · simp [checkReply]
    · cases provider.suppressesRawTypes suppressName with
      | false => simp [checkReply]
      | true => simp [checkReply]
  · simp [checkReply]

def withinPackage (values : List (Value Bytes)) : Element Bytes where
  decl := ⟨⟨.ok .concrete, "p.A", "A"⟩, []⟩
  outer := [⟨⟨.ok .package, "p", "p"⟩, values.map fun v => ⟨"SuppressWarnings", [(valueElement, v)], none⟩⟩]
  token := some "p.A"
  text := "A"
  pos := none

/-- The class `p.A` conforms to the interface `p.I` only if both are erased. -/
def erasedHost : Host Bytes MemoryFiles := memoryHost { raw := [("p.A", "p.I")] }

/-- A check of a class against `p.I` in a new run. -/
def checkErased (e : Element Bytes) : Except Failure Verdict × Run Bytes MemoryFiles :=
  (check erasedHost .attentive "SuppressWarnings" "Provides" true e "p.A" (plainType "p.I") none).run { files := {} }

theorem check_first_suppression_package :
    let suppressing := withinPackage [.list [.text "unused", .list [.text " rawtypes "]]]
    let other := withinPackage [.text "unused"]
    suppressing.RawTypesSuppressed "SuppressWarnings" ∧ ¬ other.RawTypesSuppressed "SuppressWarnings" ∧
      checkReply (checkErased suppressing).1 = some (.ok, none) ∧
      (checkErased suppressing).2.events.length = 2 ∧
      checkReply (checkErased other).1 = some (.rawOk, none) ∧
      (checkErased other).2.events.filterMap Event.message? = [⟨.rawType "p.I" "Provides", some other, none⟩] := by
  intro suppressing other
  have hsuppressing : suppressing.RawTypesSuppressed "SuppressWarnings" :=
    Element.suppressesRawTypes_iff.mp (by decide +kernel)
  have hother : ¬ other.RawTypesSuppressed "SuppressWarnings" :=
    mt Element.suppressesRawTypes_iff.mpr (by decide +kernel)
  have hcheck (e : Element Bytes) :=
    check_first_suppression erasedHost "SuppressWarnings" "Provides" e "p.A" (plainType "p.I") none { files := {} }
  obtain ⟨-, -, -, hdenied⟩ := hcheck suppressing
  obtain ⟨-, -, -, hdenied'⟩ := hcheck other
  obtain ⟨-, -, -, hquiet, -⟩ := hdenied (by decide +kernel)
  obtain ⟨-, -, -, -, hwarned⟩ := hdenied' (by decide +kernel)
  obtain ⟨hreply, hrun⟩ := hquiet (by decide +kernel) hsuppressing
  obtain ⟨hreply', hrun'⟩ := hwarned (by decide +kernel) hother
  refine ⟨hsuppressing, hother, hreply, ?_, hreply', ?_⟩
  · rw [checkErased, hrun]
    rfl
  · rw [checkErased, hrun']
    rfl

/-- An annotation that suppresses the warning does nothing behind another one of its type. -/
theorem second_suppression_ignored :
    let e := withinPackage [.text "unused", .text "rawtypes"]
    (∃ d ∈ e.outer, ∃ a ∈ d.annots, a.type = "SuppressWarnings" ∧ a.SuppressesRawTypes) ∧
      checkReply (checkErased e).1 = some (.rawOk, none) ∧
      (checkErased e).2.events.filterMap Event.message? = [⟨.rawType "p.I" "Provides", some e, none⟩] := by
  refine ⟨⟨_, List.mem_cons_self, _, List.mem_cons_of_mem _ List.mem_cons_self, rfl, ?_⟩, rfl, rfl⟩
  exact Annot.any_texts_iff.mp (by decide +kernel)

end ServiceAnnotations.Registry
