import Mathlib.Data.List.TakeWhile
import ServiceAnnotations.Command.Run
import ServiceAnnotations.Proofs.Command.Flags
import ServiceAnnotations.Proofs.Except
import ServiceAnnotations.Proofs.Settings.Overrides

/-! # Which settings take effect

Of the values of a flag, the one that is given last counts. What is not given is taken from the settings file. A call
goes on with these settings if there is nothing to refuse. -/
namespace ServiceAnnotations.Command

/-- The value that is given last for a flag. -/
def lastValue? (flags : List (Flag × Bytes)) (f : Flag) : Option Bytes :=
  (flags.reverse.find? (·.1 = f)).map Prod.snd

/-- What an argument says about an option that it names: the text behind its first equals sign, if it has one. -/
def optionText? (name arg : Bytes) : Option Bytes :=
  if 0x3d ∈ name then none
  else if arg = name then some []
  else if name ++ [0x3d] <+: arg then some (arg.drop (name.length + 1))
  else none

def lastOption? (flags : List (Flag × Bytes)) (name : Bytes) : Option Bytes :=
  flags.reverse.findSome? fun (f, value) => if f = .option then optionText? name value else none

/-- Whether a flag can have a value: options have names, and switches are on or off. -/
def Flag.Accepts (f : Flag) (value : Bytes) : Prop :=
  match f with
  | option => ∃ c cs, value = c :: cs ∧ c ≠ 0x3d
  | includeTests => (boolOf? value).isSome
  | _ => True

/-- A list in place of another, unless it is empty. -/
def listOr (names : List Bytes) (others : Option (List Bytes)) : Option (List Bytes) :=
  if names = [] then others else some names

/-- The settings that take effect if flags and patterns are given in addition to the settings of a file. -/
structure Precedence (flags : List (Flag × Bytes)) (patterns : List Bytes) (file settings : Settings) : Prop where
  outputDir : settings.outputDir = (lastValue? flags .outputDir).getD file.outputDir
  includeTests : settings.includeTests = ((lastValue? flags .includeTests).bind boolOf?).getD file.includeTests
  packages : settings.packages = listOr patterns file.packages
  processors : settings.processors = listOr (((lastValue? flags .processors).map splitList).getD []) file.processors
  options : ∀ name, settings.option? name = (lastOption? flags name).or (file.option? name)

theorem lastValue?_cons (x : Flag × Bytes) (flags : List (Flag × Bytes)) (f : Flag) :
    lastValue? (x :: flags) f = (lastValue? flags f).or (if x.1 = f then some x.2 else none) := by
  rw [lastValue?, lastValue?, List.reverse_cons, List.find?_append, Option.map_or]
  by_cases hx : x.1 = f <;> simp [hx]

theorem lastValue?_cons_or (f : Flag) (value : Bytes) (flags : List (Flag × Bytes)) (g : Flag) (before : Option Bytes) :
    (lastValue? ((f, value) :: flags) g).or before =
      (lastValue? flags g).or (if f = g then some value else before) := by
  rw [lastValue?_cons]
  cases lastValue? flags g <;> by_cases hf : f = g <;> simp [hf]

theorem lastValue?_cons_getD (f : Flag) (value : Bytes) (flags : List (Flag × Bytes)) (g : Flag) (before : Bytes) :
    (lastValue? ((f, value) :: flags) g).getD before = (lastValue? flags g).getD (if f = g then value else before) := by
  rw [lastValue?_cons]
  cases lastValue? flags g <;> by_cases hf : f = g <;> simp [hf]

theorem lastOption?_cons (x : Flag × Bytes) (flags : List (Flag × Bytes)) (name : Bytes) :
    lastOption? (x :: flags) name =
      (lastOption? flags name).or (if x.1 = .option then optionText? name x.2 else none) := by
  rw [lastOption?, lastOption?, List.reverse_cons, List.findSome?_append]
  simp

theorem mem_of_lastValue? {flags : List (Flag × Bytes)} {f : Flag} {value : Bytes}
    (h : lastValue? flags f = some value) : (f, value) ∈ flags := by
  obtain ⟨x, hx, rfl⟩ := Option.map_eq_some_iff.mp h
  have hf : x.1 = f := by simpa using List.find?_some hx
  rw [← hf]
  exact List.mem_reverse.mp (List.mem_of_find?_eq_some hx)

theorem takeWhile_append_of_notMem {name : Bytes} (h : 0x3d ∉ name) (rest : Bytes) :
    (name ++ rest).takeWhile (· != 0x3d) = name ++ rest.takeWhile (· != 0x3d) := by
  apply List.takeWhile_append_of_pos
  intro c hc
  exact bne_iff_ne.mpr (ne_of_mem_of_not_mem hc h)

theorem cutOption_of_notMem {arg : Bytes} (h : 0x3d ∉ arg) : cutOption arg = (arg, []) := by
  have hname := takeWhile_append_of_notMem h []
  rw [List.append_nil, List.takeWhile_nil, List.append_nil] at hname
  simp [cutOption, hname]

theorem cutOption_append {name : Bytes} (h : 0x3d ∉ name) (value : Bytes) :
    cutOption (name ++ 0x3d :: value) = (name, value) := by
  have hname : (name ++ 0x3d :: value).takeWhile (· != 0x3d) = name := by
    rw [takeWhile_append_of_notMem h]
    simp
  simp [cutOption, hname]

/-- Texts with an equals sign in the middle are cut at it in one way only. -/
theorem prefix_equals_iff {name name' : Bytes} (h : 0x3d ∉ name) (h' : 0x3d ∉ name') (value : Bytes) :
    name ++ [0x3d] <+: name' ++ 0x3d :: value ↔ name = name' := by
  constructor
  · intro ⟨rest, heq⟩
    rw [List.append_assoc, List.singleton_append] at heq
    have hcut := congrArg cutOption heq
    rw [cutOption_append h, cutOption_append h'] at hcut
    exact congrArg Prod.fst hcut
  · intro hname
    rw [hname]
    exact ⟨value, by simp⟩

theorem optionText?_eq (name arg : Bytes) :
    optionText? name arg = if name = (cutOption arg).1 then some (cutOption arg).2 else none := by
  unfold optionText?
  by_cases harg : 0x3d ∈ arg
  · obtain ⟨name', value, rfl, hname'⟩ := List.eq_append_cons_of_mem harg
    rw [cutOption_append hname']
    by_cases hname : 0x3d ∈ name
    · have hne : name ≠ name' := by
        rintro rfl
        exact hname' hname
      simp [hname, hne]
    · have hne : name' ++ 0x3d :: value ≠ name := by
        rintro rfl
        exact hname harg
      rw [if_neg hname, if_neg hne]
      simp only [prefix_equals_iff hname hname']
      by_cases heq : name = name' <;> simp [heq]
  · rw [cutOption_of_notMem harg]
    have hstarts : ¬ name ++ [0x3d] <+: arg := by
      intro hstarts
      exact harg (hstarts.subset (by simp))
    by_cases heq : arg = name
    · subst heq
      simp [harg]
    · simp [hstarts, heq, Ne.symm heq]

structure Request.SetsAll (r : Request) (flags : List (Flag × Bytes)) (r' : Request) : Prop where
  outputDir : r'.outputDir = (lastValue? flags .outputDir).or r.outputDir
  includeTests : r'.includeTests = ((lastValue? flags .includeTests).bind boolOf?).or r.includeTests
  processors : r'.processors = (lastValue? flags .processors).or r.processors
  config : r'.config = (lastValue? flags .config).getD r.config
  logFormat : r'.logFormat = (lastValue? flags .logFormat).getD r.logFormat
  logLevel : r'.logLevel = (lastValue? flags .logLevel).getD r.logLevel
  options : ∀ name, r'.options.get? name = (lastOption? flags name).or (r.options.get? name)

theorem exists_set_of_accepts {f : Flag} {value : Bytes} (h : f.Accepts value) (r : Request) :
    ∃ r', r.set f value = .ok r' := by
  cases f with
  | option =>
    obtain ⟨c, cs, rfl, hc⟩ := h
    have hname : (cutOption (c :: cs)).1 = c :: cs.takeWhile (· != 0x3d) := by simp [cutOption, hc]
    cases hcut : cutOption (c :: cs) with
    | mk name value =>
      rw [hcut] at hname
      obtain rfl : name = _ := hname
      exact ⟨_, by simp only [Request.set, setOption, hcut]; rfl⟩
  | includeTests =>
    obtain ⟨b, hb⟩ := Option.isSome_iff_exists.mp h
    exact ⟨_, by simp only [Request.set, hb]; rfl⟩
  | _ => exact ⟨_, rfl⟩

theorem get?_setOption {options options' : ByteMap Bytes} {arg : Bytes} (h : setOption options arg = .ok options')
    (name : Bytes) : options'.get? name = (optionText? name arg).or (options.get? name) := by
  rw [optionText?_eq]
  unfold setOption at h
  split at h
  · cases h
  · rename_i named value _ hcut
    obtain rfl := Except.ok.inj h
    rw [ByteMap.get?_insert, hcut]
    by_cases hname : name = named <;> simp [hname]

theorem Request.SetsAll.cons {r r₁ r₂ : Request} {f : Flag} {value : Bytes} {flags : List (Flag × Bytes)}
    (haccepts : ∀ x ∈ (f, value) :: flags, x.1.Accepts x.2) (hset : r.Sets f value r₁)
    (hall : r₁.SetsAll flags r₂) : r.SetsAll ((f, value) :: flags) r₂ where
  outputDir := by rw [hall.outputDir, hset.outputDir, lastValue?_cons_or]
  includeTests := by
    rw [hall.includeTests, hset.includeTests, lastValue?_cons]
    cases hlast : lastValue? flags .includeTests with
    | none =>
      by_cases hf : f = .includeTests
      · subst hf
        obtain ⟨b, hb⟩ := Option.isSome_iff_exists.mp (haccepts _ List.mem_cons_self)
        simp [hb]
      · simp [hf]
    | some last =>
      have hmem := mem_of_lastValue? hlast
      obtain ⟨b, hb⟩ := Option.isSome_iff_exists.mp (haccepts _ (List.mem_cons_of_mem _ hmem))
      simp [hb]
  processors := by rw [hall.processors, hset.processors, lastValue?_cons_or]
  config := by rw [hall.config, hset.config, lastValue?_cons_getD]
  logFormat := by rw [hall.logFormat, hset.logFormat, lastValue?_cons_getD]
  logLevel := by rw [hall.logLevel, hset.logLevel, lastValue?_cons_getD]
  options name := by
    rw [hall.options, lastOption?_cons, Option.or_assoc]
    congr 1
    have hoptions := hset.options
    by_cases hf : f = .option
    · rw [if_pos hf] at hoptions
      rw [if_pos hf]
      exact get?_setOption hoptions name
    · rw [if_neg hf] at hoptions
      simp [hf, hoptions]

/-- Flags whose values are accepted are all set, and of several values for one flag the last one stays. -/
theorem Request.exists_setAll {flags : List (Flag × Bytes)} (h : ∀ x ∈ flags, x.1.Accepts x.2) (r : Request) :
    ∃ r', r.setAll flags = .ok r' ∧ r.SetsAll flags r' := by
  induction flags generalizing r with
  | nil => exact ⟨r, rfl, rfl, rfl, rfl, rfl, rfl, rfl, fun _ => rfl⟩
  | cons x flags ih =>
    obtain ⟨f, value⟩ := x
    obtain ⟨haccepts, hflags⟩ := List.forall_mem_cons.mp h
    obtain ⟨r₁, hset⟩ := exists_set_of_accepts haccepts r
    obtain ⟨r₂, hsetAll, hall⟩ := ih hflags r₁
    refine ⟨r₂, ?_, .cons h (Request.sets_of_set hset) hall⟩
    rw [Request.setAll, hset]
    exact hsetAll

theorem precedence_of_setAll {flags : List (Flag × Bytes)} {r : Request} (h : Request.SetsAll {} flags r)
    (patterns : List Bytes) (file : Settings) :
    Precedence flags patterns file (file.apply (overridesOf { r with rest := patterns })) where
  outputDir := by
    simp [Settings.apply, overridesOf, h.outputDir]
  includeTests := by
    simp [Settings.apply, overridesOf, h.includeTests]
  packages := by
    simp [Settings.apply, overridesOf, listOr]
  processors := by
    simp [Settings.apply, overridesOf, h.processors, listOr]
  options name := by
    rw [Settings.option?_apply]
    simp [overridesOf, h.options]

/-- A job is the one that a request asks for: it has the settings of a file, with precedence for those of the request,
some packages and the processors that the settings name, in their order. -/
structure Request.Plans (r : Request) (t : Files.Tree) (job : Job) : Prop where
  log : logSettings r = .ok job.log
  settings : ∃ file, Settings.find t r.config = .ok file ∧ job.settings = file.apply (overridesOf r)
  packages : job.settings.packages.getD [] ≠ []
  kinds : Processing.builtin.create (job.settings.processors.getD []) = .ok job.kinds

theorem planRequest_eq_ok_iff {t : Files.Tree} {r : Request} {job : Job} :
    planRequest t r = .ok job ↔ r.Plans t job := by
  simp only [planRequest, bind_eq_ok_iff, mapError_eq_ok_iff]
  constructor
  · rintro ⟨log, hlog, file, hfile, h⟩
    split at h
    · cases h
    · rename_i hpackages
      obtain ⟨kinds, hkinds, h⟩ := bind_eq_ok_iff.mp h
      cases h
      exact ⟨hlog, ⟨file, hfile, rfl⟩, by simpa using hpackages, mapError_eq_ok_iff.mp hkinds⟩
  · rintro ⟨hlog, ⟨file, hfile, hsettings⟩, hpackages, hkinds⟩
    obtain ⟨log, settings, kinds⟩ := job
    obtain rfl : settings = _ := hsettings
    refine ⟨log, hlog, file, hfile, ?_⟩
    rw [if_neg (by simpa using hpackages)]
    exact bind_eq_ok_iff.mpr ⟨kinds, mapError_eq_ok_iff.mpr hkinds, rfl⟩

/-- Flags and patterns that are given together take precedence over the settings of the file, option by option and
value by value, and settings with precedence can be put together before they are used. The call has just the job that
is asked for. -/
theorem given_settings_precede :
    (∀ args flags patterns, givenBy meaningOf (expandArgs args) = ⟨flags, .rest patterns⟩ →
      (∀ x ∈ flags, x.1.Accepts x.2) →
      ∃ r, parseFlags {} (expandArgs args) = .request r ∧
        r.config = (lastValue? flags .config).getD [] ∧
        r.logFormat = (lastValue? flags .logFormat).getD Flag.logFormat.default ∧
        r.logLevel = (lastValue? flags .logLevel).getD Flag.logLevel.default ∧
        (∀ file, Precedence flags patterns file (file.apply (overridesOf r))) ∧
        ∀ t job, plan t args = .ok job ↔ r.Plans t job) ∧
      ∀ o₁ o₂ : Settings.Overrides, ∃ o : Settings.Overrides, o.IsMerge o₁ o₂ ∧
        ∀ s : Settings, (s.apply o₁).apply o₂ = s.apply o := by
  constructor
  · intro args flags patterns hgiven haccepts
    obtain ⟨r, hsetAll, hall⟩ := Request.exists_setAll haccepts {}
    have hparsed : parseFlags {} (expandArgs args) = .request { r with rest := patterns } := by
      rw [parseFlags_eq (expandArgs args) rfl, hgiven, Given.parsed, hsetAll]
    refine ⟨_, hparsed, hall.config, hall.logFormat, hall.logLevel, precedence_of_setAll hall patterns, ?_⟩
    intro t job
    rw [plan, hparsed]
    exact planRequest_eq_ok_iff
  · intro o₁ o₂
    obtain ⟨o, ho⟩ := Settings.exists_isMerge o₁ o₂
    exact ⟨o, ho, Settings.apply_apply ho⟩

namespace Mixed

/-- Options of all kinds, a list without names, and a pattern. -/
def args : List Bytes :=
  ["-Alevel=1", "-output_dir=", "-A", "debug", "-Alevel=2=3", "-processors", " ,", "./..."].map Bytes.ofString

def flags : List (Flag × Bytes) :=
  [(.option, "level=1"), (.outputDir, []), (.option, "debug"), (.option, "level=2=3"), (.processors, " ,")]

/-- A settings file in its usual place. -/
def tree : Files.Tree :=
  ({} : Files.Tree).write Settings.defaultFile (Bytes.ofString
    "packages = [\"a\"]\nprocessors = [\"setters\"]\noptions = \x7b\n  verify = \"\"\n  level = \"0\"\n\x7d\n")

/-- Whether a file has one processor and two options, and no other settings than its packages. -/
def IsUsual (file : Settings) : Prop :=
  file.outputDir = [] ∧ file.includeTests = false ∧ file.processors = some [Bytes.ofString "setters"] ∧
    file.option? "verify" = some [] ∧ file.option? "level" = some (Bytes.ofString "0") ∧ file.option? "policy" = none

instance : DecidablePred IsUsual := fun _ => inferInstanceAs (Decidable (_ ∧ _))

theorem exists_usual : ∃ file, Settings.find tree [] = .ok file ∧ IsUsual file := by
  have hfind : (Settings.find tree []).toOption.any (decide <| IsUsual ·) = true := by decide +kernel
  cases hfile : Settings.find tree [] with
  | error e =>
    rw [hfile] at hfind
    cases hfind
  | ok file =>
    rw [hfile] at hfind
    exact ⟨file, rfl, of_decide_eq_true hfind⟩

end Mixed

open Mixed in
/-- Of the options, one is given twice, one once and one in the file only. An empty list of processors leaves that of the
file. -/
theorem given_settings_precede_mixed :
    givenBy meaningOf (expandArgs args) = ⟨flags, .rest ["./..."]⟩ ∧ (∀ x ∈ flags, x.1.Accepts x.2) ∧
      ∃ job, plan tree args = .ok job ∧ job.log = ⟨.plain, .warn⟩ ∧ job.kinds = [.setters] ∧
        job.settings.outputDir = [] ∧ job.settings.includeTests = false ∧
        job.settings.packages = some [Bytes.ofString "./..."] ∧
        job.settings.processors = some [Bytes.ofString "setters"] ∧
        job.settings.option? "level" = some (Bytes.ofString "2=3") ∧ job.settings.option? "debug" = some [] ∧
        job.settings.option? "verify" = some [] ∧ job.settings.option? "policy" = none := by
  have hgiven : givenBy meaningOf (expandArgs args) = ⟨flags, .rest ["./..."]⟩ := rfl
  have haccepts : ∀ x ∈ flags, x.1.Accepts x.2 := by
    simp only [flags, List.forall_mem_cons]
    exact ⟨⟨_, _, rfl, by decide⟩, trivial, ⟨_, _, rfl, by decide⟩, ⟨_, _, rfl, by decide⟩, trivial, nofun⟩
  obtain ⟨r, -, hconfig, hformat, hlevel, hprecedence, hplan⟩ :=
    given_settings_precede.1 args flags ["./..."] hgiven haccepts
  obtain ⟨file, hfile, -, htests, hprocessors, hverify, -, hpolicy⟩ := exists_usual
  obtain ⟨houtput, htests', hpackages, hprocessors', hoptions⟩ := hprecedence file
  have houtput : (file.apply (overridesOf r)).outputDir = [] := houtput
  have htests : (file.apply (overridesOf r)).includeTests = false := htests'.trans htests
  have hprocessors : (file.apply (overridesOf r)).processors = some [Bytes.ofString "setters"] :=
    hprocessors'.trans hprocessors
  have hlog : logSettings r = .ok ⟨.plain, .warn⟩ := by
    rw [logSettings, hformat, hlevel]
    rfl
  have hjob : r.Plans tree ⟨⟨.plain, .warn⟩, file.apply (overridesOf r), [.setters]⟩ :=
    ⟨hlog, ⟨file, by rw [hconfig]; exact hfile, rfl⟩, by rw [hpackages]; exact List.cons_ne_nil _ _, by rw [hprocessors]; rfl⟩
  refine ⟨hgiven, haccepts, _, (hplan tree _).mpr hjob, rfl, rfl, houtput, htests, hpackages, hprocessors, ?_, ?_, ?_, ?_⟩
  · rw [hoptions]
    rfl
  · rw [hoptions]
    rfl
  · rw [hoptions]
    exact hverify
  · rw [hoptions]
    exact hpolicy

end ServiceAnnotations.Command
