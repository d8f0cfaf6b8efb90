import ServiceAnnotations.Proofs.Text.ByteMap
import ServiceAnnotations.Settings.Basic

/-! # Settings with precedence over others

Overrides replace settings field by field, and options one by one. Overrides that come one after the other can be put
together before they are applied. -/
namespace ServiceAnnotations.Settings

def option? (s : Settings) (name : Bytes) : Option Bytes := s.options.bind (·.get? name)

/-- Overrides that say what two others say one after the other, field by field and option by option. -/
structure Overrides.IsMerge (o o₁ o₂ : Overrides) : Prop where
  outputDir : o.outputDir = o₂.outputDir.or o₁.outputDir
  includeTests : o.includeTests = o₂.includeTests.or o₁.includeTests
  packages : o.packages = if o₂.packages = [] then o₁.packages else o₂.packages
  processors : o.processors = if o₂.processors = [] then o₁.processors else o₂.processors
  options : ∀ name, o.options.get? name = (o₂.options.get? name).or (o₁.options.get? name)

theorem option?_apply (s : Settings) (o : Overrides) (name : Bytes) :
    (s.apply o).option? name = (o.options.get? name).or (s.option? name) := by
  simp only [option?, apply]
  by_cases hempty : o.options.entries = []
  · have hnone := ByteMap.entries_eq_nil_iff.mp hempty name
    simp [hempty, hnone]
  · have hget : (s.options.getD ∅).get? name = s.options.bind (·.get? name) := by cases s.options <;> rfl
    simp [hempty, ByteMap.get?_foldl_insert, hget]

theorem options_apply_eq_none_iff (s : Settings) (o : Overrides) :
    (s.apply o).options = none ↔ s.options = none ∧ ∀ name, o.options.get? name = none := by
  rw [← ByteMap.entries_eq_nil_iff]
  by_cases hempty : o.options.entries = [] <;> simp [apply, hempty]

theorem exists_isMerge (o₁ o₂ : Overrides) : ∃ o : Overrides, o.IsMerge o₁ o₂ :=
  ⟨{ outputDir := o₂.outputDir.or o₁.outputDir
     includeTests := o₂.includeTests.or o₁.includeTests
     packages := if o₂.packages = [] then o₁.packages else o₂.packages
     processors := if o₂.processors = [] then o₁.processors else o₂.processors
     options := o₂.options.entries.foldl (fun m e => m.insert e.1 e.2) o₁.options },
    rfl, rfl, rfl, rfl, o₂.options.get?_foldl_insert o₁.options⟩

/-- Settings are known by their fields and options, and by whether there are options at all. -/
theorem ext_option? {s s' : Settings} (houtputDir : s.outputDir = s'.outputDir)
    (hincludeTests : s.includeTests = s'.includeTests) (hpackages : s.packages = s'.packages)
    (hprocessors : s.processors = s'.processors) (hnone : s.options = none ↔ s'.options = none)
    (hoptions : ∀ name, s.option? name = s'.option? name) : s = s' := by
  obtain ⟨_, _, _, _, options⟩ := s
  obtain ⟨_, _, _, _, options'⟩ := s'
  have heq : options = options' := by
    cases options with
    | none => exact (hnone.mp rfl).symm
    | some m =>
      cases options' with
      | none => cases hnone.mpr rfl
      | some m' => exact congrArg some (ByteMap.ext_get? hoptions)
  simp_all

theorem apply_apply {o o₁ o₂ : Overrides} (h : o.IsMerge o₁ o₂) (s : Settings) :
    (s.apply o₁).apply o₂ = s.apply o := by
  apply ext_option?
  · simp only [apply, h.outputDir]
    cases o₂.outputDir <;> rfl
  · simp only [apply, h.includeTests]
    cases o₂.includeTests <;> rfl
  · simp only [apply, h.packages]
    cases o₂.packages <;> rfl
  · simp only [apply, h.processors]
    cases o₂.processors <;> rfl
  · simp only [options_apply_eq_none_iff, h.options, Option.or_eq_none_iff, forall_and]
    tauto
  · intro name
    rw [option?_apply, option?_apply, option?_apply, h.options, Option.or_assoc]

end ServiceAnnotations.Settings
