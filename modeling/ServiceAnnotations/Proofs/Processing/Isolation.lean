import ServiceAnnotations.Source.Parser
import ServiceAnnotations.Processing.Run
import ServiceAnnotations.Types.Settle
import ServiceAnnotations.Proofs.Elements.Confinement

/-! # Packages in error do not affect others

A package whose annotations are in error has no round. All that it leaves behind is one report and what is
known of it, which no round of another package goes by. -/
namespace ServiceAnnotations.Processing
open Elements Files Registry ServiceAnnotations.Types

variable {σ : Type}

/-- The session with more entries in front. -/
def Session.after (before : List Entry) (s : Session σ) : Session σ :=
  { s with entries := before ++ s.entries }

namespace Session
variable (before : List Entry) (s : Session σ)

@[simp] theorem tree_after : (s.after before).tree = s.tree := rfl
@[simp] theorem extra_after : (s.after before).extra = s.extra := rfl
@[simp] theorem entries_after : (s.after before).entries = before ++ s.entries := rfl

@[simp] theorem record_after (e : Entry) : (s.after before).record e = (s.record e).after before := by
  simp [record, after]

@[simp] theorem report_after (r : Report) : (s.after before).report r = (s.report r).after before :=
  record_after before s _

@[simp] theorem log_after (r : LogRecord) : (s.after before).log r = (s.log r).after before :=
  record_after before s _

theorem foldl_report_after (rs : List Report) :
    rs.foldl report (s.after before) = (rs.foldl report s).after before := by
  induction rs generalizing s with
  | nil => rfl
  | cons r rs ih => rw [List.foldl_cons, List.foldl_cons, report_after, ih]

end Session

section
variable (env : Environment) (before : List Entry)

theorem writeGenerated_after (f : Companion.GeneratedFile) (pos : Source.Place) (s : Session σ) :
    writeGenerated env f pos (s.after before) = (writeGenerated env f pos s).after before := by
  simp only [writeGenerated, Session.log_after, Session.tree_after]
  split <;> simp [Session.after, Session.report, Session.record]

theorem runGenerator_after (annot suffix : String) (generate : Program → Known → Found → Generate Unit)
    (pkg : Package) (found : List Found) (known : Known) (s : Session σ) :
    runGenerator env annot suffix generate pkg found known (s.after before) =
      ((runGenerator env annot suffix generate pkg found known s).1,
        (runGenerator env annot suffix generate pkg found known s).2.after before) := by
  simp only [runGenerator]
  generalize (ExceptT.run (Generate.each _ _) : StateM Work _) _ = x
  obtain ⟨_ | _, ⟨file, first, reports⟩⟩ := x
  · simp only [Session.foldl_report_after]
  · cases first with
    | none => simp only [Session.foldl_report_after]
    | some pos => simp only [Session.foldl_report_after, writeGenerated_after]

/-- Processors do not look at what was left behind before. -/
theorem process_after (p : Processor σ) (round : Round) (s : Session σ) :
    p.process env round (s.after before) =
      ((p.process env round s).1, (p.process env round s).2.1, (p.process env round s).2.2.after before) := by
  cases p with
  | services phase index => simp [Processor.process, processServices, Session.after]
  | custom c => simp [Processor.process, Session.after, Session.apply]
  | setters | toStrings | immutable policy =>
    cases round with
    | package pkg found known => simp [Processor.process, runGenerator_after]
    | last => rfl

theorem processAll_after (round : Round) (ps : List (Processor σ)) (s : Session σ) :
    processAll env round ps (s.after before) =
      ((processAll env round ps s).1, (processAll env round ps s).2.1,
        (processAll env round ps s).2.2.after before) := by
  induction ps generalizing s with
  | nil => rfl
  | cons p ps ih =>
    simp only [processAll, process_after]
    rcases p.process env round s with ⟨_ | _, p', s'⟩
    · rfl
    · simp only [ih]

theorem processRounds_after (packages : List Package) (known : Known) (ps : List (Processor σ))
    (s : Session σ) :
    processRounds env packages known ps (s.after before) =
      ((processRounds env packages known ps s).1, (processRounds env packages known ps s).2.1,
        (processRounds env packages known ps s).2.2.after before) := by
  induction packages generalizing known ps s with
  | nil => simp only [processRounds, Session.log_after, processAll_after]
  | cons pkg packages ih =>
    simp only [processRounds, Session.log_after]
    rcases scan env.program pkg known with ⟨e | found, known'⟩
    · simp only [Session.report_after, ih]
    · simp only [processAll_after]
      rcases processAll env (.package pkg found known') ps
        (s.log ⟨.info, "processing package", [("package", .text pkg.path)]⟩) with ⟨_ | _, ps', s'⟩
      · rfl
      · simp only [ih]

end

theorem Generate.each_congr {α : Type} {f g : α → Generate Unit} {as : List α} (h : ∀ a ∈ as, f a = g a) :
    Generate.each f as = Generate.each g as := by
  induction as with
  | nil => rfl
  | cons a as ih =>
    rw [Generate.each, Generate.each, h a List.mem_cons_self, ih fun b hb => h b (List.mem_cons_of_mem a hb)]

section
variable {p : Program} {k₁ k₂ : Known} {f : Found}

theorem target?_congr (h : ∀ n, f.type = some n → k₁.type n = k₂.type n) :
    target? p k₁ f = target? p k₂ f := by
  unfold target?
  cases htype : f.type with
  | none => rfl
  | some n => simp only [h n htype]

theorem generateFormat_congr (h : ∀ n, f.type = some n → k₁.type n = k₂.type n) :
    generateFormat p k₁ f = generateFormat p k₂ f := by
  unfold generateFormat
  rw [target?_congr h]
  cases htype : f.type with
  | none => rfl
  | some n => simp only [h n htype]

theorem generateSetters_congr (writer : Companion.Writer) (h : ∀ n, f.type = some n → k₁.type n = k₂.type n) :
    generateSetters writer p k₁ f = generateSetters writer p k₂ f := by
  unfold generateSetters
  rw [target?_congr h]

theorem generateImmutable_congr (policy : Policy) (writer : Companion.Writer) (h : ∀ n, f.type = some n → k₁.type n = k₂.type n) :
    generateImmutable policy writer p k₁ f = generateImmutable policy writer p k₂ f := by
  unfold generateImmutable
  rw [target?_congr h]

end

def Processor.IsBuiltin : Processor σ → Prop
  | .custom _ => False
  | _ => True

section
variable {env : Environment} {pkg : Package} {found : List Found} {k₁ k₂ : Known}

theorem runGenerator_congr {generate : Program → Known → Found → Generate Unit}
    (hgenerate : ∀ f ∈ found, generate env.program k₁ f = generate env.program k₂ f)
    (annot suffix : String) (s : Session σ) :
    runGenerator env annot suffix generate pkg found k₁ s =
      runGenerator env annot suffix generate pkg found k₂ s := by
  have heach : Generate.each (generate env.program k₁) (annotatedWith found annot) =
      Generate.each (generate env.program k₂) (annotatedWith found annot) :=
    Generate.each_congr fun f hf => hgenerate f (mem_of_mem_annotatedWith hf)
  simp only [runGenerator, heach]

/-- In the round of a package, processors that come with the program go by what is known of its types. -/
theorem process_congr (hfound : ∀ f ∈ found, ∀ n, f.type = some n → k₁.type n = k₂.type n)
    {p : Processor σ} (hp : p.IsBuiltin) (s : Session σ) :
    p.process env (.package pkg found k₁) s = p.process env (.package pkg found k₂) s := by
  cases p with
  | services phase index => rfl
  | custom c => exact hp.elim
  | setters =>
    simp only [Processor.process]
    rw [runGenerator_congr fun f hf => generateSetters_congr env.writer (hfound f hf)]
  | toStrings =>
    simp only [Processor.process]
    rw [runGenerator_congr fun f hf => generateFormat_congr (hfound f hf)]
  | immutable policy =>
    simp only [Processor.process]
    rw [runGenerator_congr fun f hf => generateImmutable_congr policy env.writer (hfound f hf)]

theorem isBuiltin_process (env : Environment) {p : Processor σ} (hp : p.IsBuiltin) (round : Round)
    (s : Session σ) : (p.process env round s).2.1.IsBuiltin := by
  cases p with
  | services phase index => trivial
  | custom c => exact hp.elim
  | setters | toStrings | immutable policy => cases round <;> trivial

theorem processAll_congr (hfound : ∀ f ∈ found, ∀ n, f.type = some n → k₁.type n = k₂.type n)
    {ps : List (Processor σ)} (hps : ∀ p ∈ ps, p.IsBuiltin) (s : Session σ) :
    processAll env (.package pkg found k₁) ps s = processAll env (.package pkg found k₂) ps s := by
  induction ps generalizing s with
  | nil => rfl
  | cons p ps ih =>
    obtain ⟨hp, hps⟩ := List.forall_mem_cons.mp hps
    simp only [processAll]
    rw [process_congr hfound hp s]
    rcases p.process env (.package pkg found k₂) s with ⟨_ | _, p', s'⟩
    · rfl
    · simp only [ih hps]

theorem isBuiltin_processAll (env : Environment) (round : Round) {ps : List (Processor σ)}
    (hps : ∀ p ∈ ps, p.IsBuiltin) (s : Session σ) : ∀ p ∈ (processAll env round ps s).2.1, p.IsBuiltin := by
  induction ps generalizing s with
  | nil => exact hps
  | cons p ps ih =>
    obtain ⟨hp, hps⟩ := List.forall_mem_cons.mp hps
    have hp' := isBuiltin_process env hp round s
    simp only [processAll]
    rcases hrun : p.process env round s with ⟨_ | _, p', s'⟩
    all_goals rw [hrun] at hp'
    · exact List.forall_mem_cons.mpr ⟨hp', hps⟩
    · exact List.forall_mem_cons.mpr ⟨hp', ih hps s'⟩

end

/-- The rounds of packages do not depend on what is known of a package that is not among them. -/
theorem processRounds_congr (env : Environment) {id : String} {packages : List Package}
    (hpackages : ∀ pkg ∈ packages, pkg.id ≠ id) {k₁ k₂ : Known} (hknown : k₁.AgreeOn (· ≠ some id) k₂)
    {ps : List (Processor σ)} (hps : ∀ p ∈ ps, p.IsBuiltin) (s : Session σ) :
    processRounds env packages k₁ ps s = processRounds env packages k₂ ps s := by
  induction packages generalizing k₁ k₂ ps s with
  | nil => rfl
  | cons pkg packages ih =>
    obtain ⟨hpkg, hpackages⟩ := List.forall_mem_cons.mp hpackages
    have hown : k₁.AgreeOn (· = some pkg.id) k₂ := hknown.mono fun i hi => by simp [hi, hpkg]
    obtain ⟨hresult, hafter⟩ := scan_congr env.program pkg hown
    have hothers := scan_agreeOn_congr env.program pkg (fun hid => hpkg (Option.some.inj hid)) hknown
    simp only [processRounds]
    rcases hscan₁ : scan env.program pkg k₁ with ⟨result, k₁'⟩
    rcases hscan₂ : scan env.program pkg k₂ with ⟨result', k₂'⟩
    rw [hscan₁, hscan₂] at hresult hafter hothers
    obtain rfl : result = result' := hresult
    cases result with
    | error e => exact ih hpackages hothers hps _
    | ok found =>
      have hfound : ∀ f ∈ found, ∀ n, f.type = some n → k₁'.type n = k₂'.type n := fun f hf n hn =>
        hafter.type n (package_of_mem_scan hscan₁ f hf n hn)
      simp only []
      rw [processAll_congr hfound hps]
      have hps' := isBuiltin_processAll env (.package pkg found k₂') hps
        (s.log ⟨.info, "processing package", [("package", .text pkg.path)]⟩)
      rcases hall : processAll env (.package pkg found k₂') ps
        (s.log ⟨.info, "processing package", [("package", .text pkg.path)]⟩) with ⟨_ | _, ps', s'⟩
      · rfl
      · rw [hall] at hps'
        exact ih hpackages hothers hps' s'

/-- What a package in error leaves behind. -/
def misuseEntries (pkg : Package) (e : Misuse) : List Entry :=
  [.log ⟨.info, "processing package", [("package", .text pkg.path)]⟩, .report (.ofMisuse e)]

theorem Session.report_log_eq (pkg : Package) (e : Misuse) (s : Session σ) :
    (s.log ⟨.info, "processing package", [("package", .text pkg.path)]⟩).report (.ofMisuse e) =
      { s with entries := s.entries ++ misuseEntries pkg e } := by
  simp [log, report, record, misuseEntries]

section
variable {env : Environment} {bad : Package} {e : Misuse}

/-- A package in error at the front of others. -/
theorem processRounds_misuse (hbad : (scan env.program bad {}).1 = .error e) {packages : List Package}
    (hdiff : ∀ pkg ∈ packages, pkg.id ≠ bad.id) {k : Known} (hk : k.AgreeOn (· = some bad.id) {})
    {ps : List (Processor σ)} (hps : ∀ p ∈ ps, p.IsBuiltin) (s : Session σ) :
    processRounds env (bad :: packages) k ps s =
      processRounds env packages k ps { s with entries := s.entries ++ misuseEntries bad e } := by
  have hresult := (scan_congr env.program bad hk).1
  have hframe := scan_agreeOn env.program bad k
  simp only [processRounds]
  rcases hscan : scan env.program bad k with ⟨result, k'⟩
  rw [hscan] at hresult hframe
  obtain rfl : result = .error e := hresult.trans hbad
  simp only [Session.report_log_eq]
  exact processRounds_congr env hdiff hframe hps _

/-- The same rounds are run with and without a package in error, if they come to it. -/
theorem processRounds_skips (hbad : (scan env.program bad {}).1 = .error e) {xs ys : List Package}
    (hdiff : ∀ pkg ∈ xs ++ ys, pkg.id ≠ bad.id) {k : Known} (hk : k.AgreeOn (· = some bad.id) {})
    {ps : List (Processor σ)} (hps : ∀ p ∈ ps, p.IsBuiltin) {s : Session σ}
    (hreach : (processRounds env xs k ps s).1 = .ok ()) :
    ∃ outcome ps' s' before after, processRounds env (xs ++ ys) k ps s = (outcome, ps', s') ∧
      s'.entries = before ++ after ∧
      processRounds env (xs ++ bad :: ys) k ps s =
        (outcome, ps', { s' with entries := before ++ misuseEntries bad e ++ after }) := by
  induction xs generalizing k ps s with
  | nil =>
    -- what is left behind before the package is only carried along
    let fresh : Session σ := { s with entries := [] }
    have hs : s = fresh.after s.entries := by simp [fresh, Session.after]
    have hs' : ({ s with entries := s.entries ++ misuseEntries bad e } : Session σ) =
        fresh.after (s.entries ++ misuseEntries bad e) := by simp [fresh, Session.after]
    rw [List.nil_append] at hdiff
    have hrest := processRounds_after env s.entries ys k ps fresh
    have hmore := processRounds_after env (s.entries ++ misuseEntries bad e) ys k ps fresh
    rw [← hs] at hrest
    rw [← hs', ← processRounds_misuse hbad hdiff hk hps] at hmore
    exact ⟨_, _, _, s.entries, _, hrest, rfl, hmore⟩
  | cons pkg xs ih =>
    rw [List.cons_append] at hdiff
    obtain ⟨hpkg, hdiff⟩ := List.forall_mem_cons.mp hdiff
    have hframe := scan_agreeOn env.program pkg k
    simp only [List.cons_append, processRounds] at hreach ⊢
    rcases hscan : scan env.program pkg k with ⟨e' | found, k'⟩
    all_goals
      rw [hscan] at hframe hreach
      have hk' : k'.AgreeOn (· = some bad.id) {} :=
        (hframe.mono fun i hi => by simp [hi, hpkg.symm]).trans hk
    · exact ih hdiff hk' hps hreach
    · have hps₁ := isBuiltin_processAll env (.package pkg found k') hps
        (s.log ⟨.info, "processing package", [("package", .text pkg.path)]⟩)
      simp only [] at hreach ⊢
      rcases hall : processAll env (.package pkg found k') ps
        (s.log ⟨.info, "processing package", [("package", .text pkg.path)]⟩) with ⟨_ | _, ps₁, s₁⟩
      all_goals rw [hall] at hreach hps₁
      · cases hreach
      · exact ih hdiff hk' hps₁ hreach

end

/-- Processors that come with the program do not fail in the last round. -/
theorem processAll_last (env : Environment) {ps : List (Processor σ)} (hps : ∀ p ∈ ps, p.IsBuiltin)
    (s : Session σ) : (processAll env .last ps s).1 = .ok () := by
  induction ps generalizing s with
  | nil => rfl
  | cons p ps ih =>
    obtain ⟨hp, hps⟩ := List.forall_mem_cons.mp hps
    have hlast : (p.process env .last s).1 = .ok () := by
      cases p with
      | custom c => exact hp.elim
      | _ => rfl
    simp only [processAll]
    rcases hrun : p.process env .last s with ⟨outcome, p', s'⟩
    rw [hrun] at hlast
    obtain rfl : outcome = .ok () := hlast
    exact ih hps s'

/-- Once a processor has failed, the packages that follow have no round. -/
theorem processRounds_append_of_error {env : Environment} {xs : List Package} (ys : List Package) {k : Known}
    {ps ps' : List (Processor σ)} (hps : ∀ p ∈ ps, p.IsBuiltin) {s s' : Session σ} {stop : Stop}
    (hrun : processRounds env xs k ps s = (.error stop, ps', s')) :
    processRounds env (xs ++ ys) k ps s = (.error stop, ps', s') := by
  induction xs generalizing k ps s with
  | nil =>
    have hlast := processAll_last env hps (s.log { level := .debug, message := "processing terminal round" })
    rw [processRounds] at hrun
    rw [hrun] at hlast
    cases hlast
  | cons pkg xs ih =>
    simp only [List.cons_append, processRounds] at hrun ⊢
    rcases hscan : scan env.program pkg k with ⟨e | found, k'⟩
    all_goals rw [hscan] at hrun
    · exact ih hps hrun
    · have hps₁ := isBuiltin_processAll env (.package pkg found k') hps
        (s.log ⟨.info, "processing package", [("package", .text pkg.path)]⟩)
      simp only [] at hrun ⊢
      rcases hall : processAll env (.package pkg found k') ps
        (s.log ⟨.info, "processing package", [("package", .text pkg.path)]⟩) with ⟨_ | _, ps₁, s₁⟩
      all_goals rw [hall] at hrun hps₁
      · exact hrun
      · exact ih hps₁ hrun

theorem isBuiltin_init {env : Environment} {kind : ProcessorKind} {s s' : Session σ} {p : Processor σ}
    (h : (Choice.builtin kind).init env s = (.ok p, s')) : p.IsBuiltin := by
  cases kind with
  | services | setters | toStrings =>
    obtain ⟨rfl, -⟩ := by simpa only [Choice.init, Prod.mk.injEq, Except.ok.injEq] using h
    trivial
  | immutable =>
    simp only [Choice.init] at h
    cases hpolicy : Policy.ofOptions env.options with
    | error cause =>
      rw [hpolicy] at h
      cases h
    | ok policy =>
      rw [hpolicy] at h
      cases h
      trivial

theorem isBuiltin_initAll {env : Environment} {choices : List (Choice σ)}
    (hchoices : ∀ c ∈ choices, ∃ kind, c = .builtin kind) {s s' : Session σ} {ps : List (Processor σ)}
    (h : initAll env choices s = (.ok (), ps, s')) : ∀ p ∈ ps, p.IsBuiltin := by
  induction choices generalizing ps s with
  | nil =>
    obtain ⟨-, rfl, -⟩ := by simpa only [initAll, Prod.mk.injEq] using h
    simp
  | cons c choices ih =>
    obtain ⟨⟨kind, rfl⟩, hrest⟩ := List.forall_mem_cons.mp hchoices
    simp only [initAll] at h
    rcases hinit : (Choice.builtin kind).init env s with ⟨_ | p, s₁⟩
    all_goals rw [hinit] at h
    · cases h
    · rcases hinits : initAll env choices s₁ with ⟨outcome, ps₁, s₂⟩
      obtain ⟨rfl, rfl, rfl⟩ := by simpa only [hinits, Prod.mk.injEq] using h
      exact List.forall_mem_cons.mpr ⟨isBuiltin_init hinit, ih hrest hinits⟩

def Outcome.withError : Outcome → Outcome
  | .ok => .errorsReported 1
  | .errorsReported n => .errorsReported (n + 1)
  | .stopped stop => .stopped stop

def Outcome.ofEntries (entries : List Entry) : Outcome :=
  match countOf .error (reportsOf entries) with
  | 0 => .ok
  | n => .errorsReported n

theorem Outcome.ofEntries_misuse (before after : List Entry) (pkg : Package) (e : Misuse) :
    ofEntries (before ++ misuseEntries pkg e ++ after) = (ofEntries (before ++ after)).withError := by
  have hcount : countOf .error (reportsOf (before ++ misuseEntries pkg e ++ after)) =
      countOf .error (reportsOf (before ++ after)) + 1 := by
    simp [countOf, reportsOf, misuseEntries, Report.ofMisuse]
    omega
  unfold ofEntries
  rw [hcount]
  cases countOf .error (reportsOf (before ++ after)) <;> rfl

theorem Outcome.ofEntries_ne_stopped (entries : List Entry) (stop : Stop) : ofEntries entries ≠ .stopped stop := by
  unfold ofEntries
  split <;> nofun

def Environment.inDirectory (env : Environment) : Environment :=
  if env.outputDir = [] then { env with outputDir := Path.here } else env

@[simp] theorem Environment.program_inDirectory (env : Environment) :
    env.inDirectory.program = env.program := by
  unfold inDirectory
  split <;> rfl

def Choice.orBuiltin (choices : List (Choice σ)) : List (Choice σ) :=
  if choices.isEmpty then Processing.builtin.map fun b => .builtin b.2 else choices

theorem Choice.builtin_of_mem_orBuiltin {choices : List (Choice σ)}
    (h : ∀ c ∈ choices, ∃ kind, c = .builtin kind) : ∀ c ∈ orBuiltin choices, ∃ kind, c = .builtin kind := by
  unfold orBuiltin
  split
  · intro c hc
    obtain ⟨b, -, rfl⟩ := List.mem_map.mp hc
    exact ⟨b.2, rfl⟩
  · exact h

theorem runProcessors_eq (env : Environment) (choices : List (Choice σ)) (packages : List Package)
    (s : Session σ) :
    runProcessors env choices packages s =
      match initAll env.inDirectory (Choice.orBuiltin choices) s with
      | (.error stop, ps, s) => (.stopped stop, ps, s)
      | (.ok (), ps, s) =>
        match processRounds env.inDirectory packages {} ps s with
        | (.error stop, ps, s) => (.stopped stop, ps, s)
        | (.ok (), ps, s) => (.ofEntries s.entries, ps, s) := by
  simp only [runProcessors, Environment.inDirectory, Choice.orBuiltin, Outcome.ofEntries]
  generalize (if env.outputDir = [] then _ else env) = env'
  generalize (if choices.isEmpty then _ else choices) = choices'
  rcases initAll env' choices' s with ⟨_ | _, ps, s₀⟩
  · rfl
  · dsimp only
    rcases processRounds env' packages {} ps s₀ with ⟨_ | _, ps₁, s₁⟩
    · rfl
    · dsimp only
      cases countOf .error (reportsOf s₁.entries) <;> rfl

/-- A run that is stopped does not come to packages that follow. -/
theorem runProcessors_append_of_stopped {env : Environment} {choices : List (Choice σ)}
    (hchoices : ∀ c ∈ choices, ∃ kind, c = .builtin kind) {xs : List Package} (ys : List Package) {s : Session σ}
    {stop : Stop} (hstop : (runProcessors env choices xs s).1 = .stopped stop) :
    runProcessors env choices (xs ++ ys) s = runProcessors env choices xs s := by
  simp only [runProcessors_eq] at hstop ⊢
  rcases hinit : initAll env.inDirectory (Choice.orBuiltin choices) s with ⟨_ | _, ps, s₀⟩
  · rfl
  · have hps := isBuiltin_initAll (Choice.builtin_of_mem_orBuiltin hchoices) hinit
    rw [hinit] at hstop
    dsimp only at hstop ⊢
    rcases hrounds : processRounds env.inDirectory xs {} ps s₀ with ⟨_ | _, ps₁, s₁⟩
    · rw [processRounds_append_of_error ys hps hrounds]
    · rw [hrounds] at hstop
      exact (Outcome.ofEntries_ne_stopped _ _ hstop).elim

/-- A run that is not stopped has initialised all processors and passed all rounds to them. -/
theorem rounds_of_runProcessors {env : Environment} {choices : List (Choice σ)} {packages : List Package}
    {s : Session σ} (hend : ∀ stop, (runProcessors env choices packages s).1 ≠ .stopped stop) :
    ∃ ps s₀, initAll env.inDirectory (Choice.orBuiltin choices) s = (.ok (), ps, s₀) ∧
      (processRounds env.inDirectory packages {} ps s₀).1 = .ok () := by
  simp only [runProcessors_eq] at hend
  rcases hinit : initAll env.inDirectory (Choice.orBuiltin choices) s with ⟨stop | _, ps, s₀⟩
  all_goals rw [hinit] at hend
  · exact (hend stop rfl).elim
  · dsimp only at hend
    refine ⟨ps, s₀, rfl, ?_⟩
    rcases hrounds : processRounds env.inDirectory packages {} ps s₀ with ⟨stop | _, ps₁, s₁⟩
    · rw [hrounds] at hend
      exact (hend stop rfl).elim
    · rfl

/-- A package whose annotations are in error changes nothing about a run, except that its error is reported once
the packages before it have had their rounds. If a processor cannot be initialised, or breaks off before the
package, the run does not come to it. -/
theorem run_skips_misuse (env : Environment) {choices : List (Choice σ)}
    (hchoices : ∀ c ∈ choices, ∃ kind, c = .builtin kind) (xs ys : List Package) {bad : Package}
    (hdiff : ∀ pkg ∈ xs ++ ys, pkg.id ≠ bad.id) {e : Misuse}
    (hbad : (scan env.program bad {}).1 = .error e) (s : Session σ) :
    let front := runProcessors env choices xs s
    let whole := runProcessors env choices (xs ++ ys) s
    let more := runProcessors env choices (xs ++ [bad] ++ ys) s
    (∀ stop, front.1 = .stopped stop → whole = front ∧ more = front) ∧
    ((∀ stop, front.1 ≠ .stopped stop) →
      ∃ before after, whole.2.2.entries = before ++ after ∧
        more = (whole.1.withError, whole.2.1,
          { whole.2.2 with entries := before ++ misuseEntries bad e ++ after })) := by
  intro front whole more
  have hmore : more = runProcessors env choices (xs ++ bad :: ys) s := by simp [more]
  constructor
  · intro stop hstop
    exact ⟨runProcessors_append_of_stopped hchoices ys hstop,
      hmore.trans (runProcessors_append_of_stopped hchoices (bad :: ys) hstop)⟩
  · intro hreach
    obtain ⟨ps, s₀, hinit, hrounds⟩ := rounds_of_runProcessors hreach
    have hps := isBuiltin_initAll (Choice.builtin_of_mem_orBuiltin hchoices) hinit
    rw [← env.program_inDirectory] at hbad
    obtain ⟨outcome, ps', s', before, after, hrest, hentries, hskips⟩ :=
      processRounds_skips hbad hdiff (.refl _) hps hrounds
    have hwhole : whole = _ := runProcessors_eq env choices (xs ++ ys) s
    rw [hinit] at hwhole
    rw [runProcessors_eq, hinit] at hmore
    dsimp only at hwhole hmore
    rw [hrest] at hwhole
    rw [hskips] at hmore
    cases outcome with
    | error stop => exact ⟨before, after, hwhole ▸ hentries, hwhole ▸ hmore⟩
    | ok =>
      dsimp only at hwhole hmore
      rw [Outcome.ofEntries_misuse, ← hentries] at hmore
      exact ⟨before, after, hwhole ▸ hentries, hwhole ▸ hmore⟩

namespace Cities

def eastFile : Source.File :=
  (Source.File.read? (Bytes.ofString "east/city.go")
    (Bytes.ofString "package east\n\n// @autoserv.Setter\ntype City struct\x7b area int \x7d\n")).get
    (by decide +kernel)

def midFile : Source.File :=
  (Source.File.read? (Bytes.ofString "mid/city.go")
    (Bytes.ofString "package mid\n\n// @Mark(\ntype City struct\x7b\x7d\n")).get (by decide +kernel)

def westFile : Source.File :=
  (Source.File.read? (Bytes.ofString "west/city.go")
    (Bytes.ofString "package west\n\n// @autoserv.Setter\ntype City struct\x7b area int \x7d\n")).get
    (by decide +kernel)

def packageOf (id : String) (f : Source.File) : Package where
  id := id
  path := id
  name := id
  dir := Bytes.ofString id
  files := [f]

def east : Package := packageOf "east" eastFile
def mid : Package := packageOf "mid" midFile
def west : Package := packageOf "west" westFile

def environment (options : ByteMap Bytes) : Environment where
  options := options
  outputDir := []
  sources := .tree
  program := .settle { packages := [east, mid, west] }

def start : Session Unit := { tree := {}, extra := () }

/-- The options that ask for types to be changed in place. -/
def modifying : ByteMap Bytes := ByteMap.insert ∅ "policy" (Bytes.ofString "MOD")

theorem scan_mid (options : ByteMap Bytes) :
    ∃ e, (scan (environment options).program mid {}).1 = .error e := by
  have hprogram : (environment options).program = (environment ∅).program := rfl
  have hfailed : (scan (environment ∅).program mid {}).1.isOk = false := by decide +kernel
  rw [hprogram]
  cases hscan : (scan (environment ∅).program mid {}).1 with
  | ok found => simp [hscan, Except.isOk, Except.toBool] at hfailed
  | error e => exact ⟨e, rfl⟩

end Cities

open Cities in
theorem run_skips_misuse_between :
    (∃ e, (scan (environment ∅).program mid {}).1 = .error e) ∧
    (runProcessors (environment ∅) [.builtin .setters] [east, west] start).1 = .ok ∧
    (runProcessors (environment ∅) [.builtin .setters] [east, mid, west] start).1 = .errorsReported 1 ∧
    (runProcessors (environment ∅) [.builtin .setters] [east, mid, west] start).2.2.tree =
      (runProcessors (environment ∅) [.builtin .setters] [east, west] start).2.2.tree := by
  have hends : (runProcessors (environment ∅) [.builtin .setters] [east] start).1 = .ok ∧
      (runProcessors (environment ∅) [.builtin .setters] [east, west] start).1 = .ok := by decide +kernel
  obtain ⟨hfront, hwhole⟩ := hends
  obtain ⟨e, hbad⟩ := scan_mid ∅
  have hskips := run_skips_misuse (environment ∅) (List.forall_mem_singleton.mpr ⟨.setters, rfl⟩) [east] [west]
    (by decide +kernel) hbad start
  simp only [List.cons_append, List.nil_append, hfront] at hskips
  obtain ⟨before, after, -, hmore⟩ := hskips.2 nofun
  rcases hrun : runProcessors (environment ∅) [.builtin .setters] [east, west] start with ⟨outcome, ps, s'⟩
  rw [hrun] at hmore hwhole
  obtain rfl : outcome = .ok := hwhole
  rw [hmore]
  exact ⟨⟨e, hbad⟩, rfl, rfl, rfl⟩

open Cities in
/-- A processor that cannot be initialised stops a run before it comes to any package, so that the error
of none is reported. -/
theorem run_stops_before_misuse :
    (∃ e, (scan (environment modifying).program mid {}).1 = .error e) ∧
    (runProcessors (environment modifying) [.builtin .immutable] ([east] ++ [mid] ++ [west]) start).1 =
      .stopped (.failed
        "immutable policy MOD is not supported: struct fields cannot be made read-only in place") ∧
    (runProcessors (environment modifying) [.builtin .immutable]
      ([east] ++ [mid] ++ [west]) start).2.2.entries = [] := by
  refine ⟨scan_mid _, ?_, ?_⟩
  · decide +kernel
  · decide +kernel

end ServiceAnnotations.Processing
