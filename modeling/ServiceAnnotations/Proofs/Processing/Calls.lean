import Mathlib.Data.List.Forall2
import ServiceAnnotations.Proofs.Processing.Isolation

/-! # The calls of a run and the errors it counts

To see the calls of a run, each of its processors is run by another one that also notes the call. The run of
these goes like the run itself, so what they note are the calls that the run makes. -/
namespace ServiceAnnotations.Processing
open Elements Files Registry ServiceAnnotations.Types

variable {σ : Type}

inductive Call
  | init
  | round (r : Round)

/-- A call of the processor at a place in the list, with what it left behind. -/
structure CallNote where
  processor : Nat
  call : Call
  left : List Entry

def CallNote.made (n : CallNote) : Nat × Call := (n.processor, n.call)

structure Watched (σ : Type) where
  extra : σ
  processors : List (Processor σ) := []
  notes : List CallNote := []

def Session.watched (s : Session σ) (ps : List (Processor σ)) (notes : List CallNote) : Session (Watched σ) where
  tree := s.tree
  entries := s.entries
  extra := ⟨s.extra, ps, notes⟩

def Watched.effect (w : Watched σ) (i : Nat) (call : Call) (outcome : Except Stop Unit)
    (ps : List (Processor σ)) (s : Session σ) : Effect (Watched σ) where
  outcome := outcome
  entries := s.entries
  tree := s.tree
  extra := ⟨s.extra, ps, w.notes ++ [⟨i, call, s.entries⟩]⟩

/-- Runs the processor at a place in the list and notes its calls. -/
def Choice.watch (c : Choice σ) (i : Nat) : Custom (Watched σ) where
  init env tree w :=
    match c.init env { tree, extra := w.extra } with
    | (.ok p, s) => w.effect i .init (.ok ()) (w.processors ++ [p]) s
    | (.error stop, s) => w.effect i .init (.error stop) w.processors s
  process env round tree w :=
    match w.processors[i]? with
    | some p =>
      let (outcome, p, s) := p.process env round { tree, extra := w.extra }
      w.effect i (.round round) outcome (w.processors.set i p) s
    | none => { outcome := .ok (), tree, extra := w }

def watchAll : Nat → List (Choice σ) → List (Custom (Watched σ))
  | _, [] => []
  | i, c :: cs => c.watch i :: watchAll (i + 1) cs

/-- The calls that give one thing to each of several processors in order. -/
def callEach (start count : Nat) (call : Call) : List (Nat × Call) :=
  (List.range' start count).map (·, call)

def roundsOf (program : Program) : List Package → Known → List (Except Misuse Round)
  | [], _ => []
  | pkg :: rest, known =>
    let (result, known) := scan program pkg known
    result.map (fun found => .package pkg found known) :: roundsOf program rest known

def errorsIn (entries : List Entry) : Nat := countOf .error (reportsOf entries)

def errorsLeft : List CallNote → Nat
  | [] => 0
  | n :: notes => errorsIn n.left + errorsLeft notes

theorem errorsIn_append (xs ys : List Entry) : errorsIn (xs ++ ys) = errorsIn xs + errorsIn ys := by
  simp [errorsIn, countOf, reportsOf]

theorem errorsIn_left (notes : List CallNote) :
    errorsIn (notes.flatMap CallNote.left) = errorsLeft notes := by
  induction notes with
  | nil => rfl
  | cons n notes ih => rw [List.flatMap_cons, errorsIn_append, ih, errorsLeft]

theorem errorsLeft_append (xs ys : List CallNote) : errorsLeft (xs ++ ys) = errorsLeft xs + errorsLeft ys := by
  rw [← errorsIn_left, List.flatMap_append, errorsIn_append, errorsIn_left, errorsIn_left]

theorem errorsIn_entries_log (s : Session σ) (r : LogRecord) :
    errorsIn (s.log r).entries = errorsIn s.entries :=
  errorsIn_append s.entries [.log r]

theorem errorsIn_entries_misuse (s : Session σ) (e : Misuse) :
    errorsIn (s.report (.ofMisuse e)).entries = errorsIn s.entries + 1 :=
  errorsIn_append s.entries [.report (.ofMisuse e)]

section
variable (env : Environment) (s : Session σ) (ps : List (Processor σ)) (notes : List CallNote)

theorem Session.eq_after : s = ({ tree := s.tree, extra := s.extra } : Session σ).after s.entries := by
  simp [after]

theorem Session.log_watched (r : LogRecord) : (s.log r).watched ps notes = (s.watched ps notes).log r := rfl

theorem init_after (c : Choice σ) (before : List Entry) :
    c.init env (s.after before) = ((c.init env s).1, (c.init env s).2.after before) := by
  cases c with
  | builtin kind => cases kind <;> rfl
  | custom c => simp [Choice.init, Session.after, Session.apply]

theorem init_watch {c : Choice σ} {result : Except Stop (Processor σ)} {s' : Session σ}
    (h : c.init env s = (result, s')) (i : Nat) :
    ∃ left, s'.entries = s.entries ++ left ∧
      (Choice.custom (c.watch i)).init env (s.watched ps notes) =
        (result.map fun _ => .custom (c.watch i),
          s'.watched (ps ++ result.toOption.toList) (notes ++ [⟨i, .init, left⟩])) := by
  -- what was left behind before plays no part, so the call may start without it
  rw [Session.eq_after s, init_after] at h
  rcases hfresh : c.init env { tree := s.tree, extra := s.extra } with ⟨result', fresh⟩
  rw [hfresh] at h
  obtain ⟨rfl, rfl⟩ := Prod.mk.inj h
  have heffect : (c.watch i).init env (s.watched ps notes).tree (s.watched ps notes).extra =
      (s.watched ps notes).extra.effect i .init (result'.map fun _ => ())
        (ps ++ result'.toOption.toList) fresh := by
    simp only [Choice.watch, Session.watched, hfresh]
    cases result' with
    | ok p => rfl
    | error stop => simp [Except.toOption, Except.map]
  refine ⟨fresh.entries, rfl, ?_⟩
  rw [Choice.init, heffect]
  cases result' <;> rfl

theorem process_watch {p p' : Processor σ} {round : Round} {outcome : Except Stop Unit} {s' : Session σ}
    (h : p.process env round s = (outcome, p', s')) (c : Choice σ) {i : Nat} (hi : ps[i]? = some p) :
    ∃ left, s'.entries = s.entries ++ left ∧
      (Processor.custom (c.watch i)).process env round (s.watched ps notes) =
        (outcome, .custom (c.watch i), s'.watched (ps.set i p') (notes ++ [⟨i, .round round, left⟩])) := by
  rw [Session.eq_after s, process_after] at h
  rcases hfresh : p.process env round { tree := s.tree, extra := s.extra } with ⟨outcome', p'', fresh⟩
  rw [hfresh] at h
  obtain ⟨rfl, rfl, rfl⟩ := by simpa only [Prod.mk.injEq] using h
  have heffect : (c.watch i).process env round (s.watched ps notes).tree (s.watched ps notes).extra =
      (s.watched ps notes).extra.effect i (.round round) outcome' (ps.set i p'') fresh := by
    simp only [Choice.watch, Session.watched, hi, hfresh]
  refine ⟨fresh.entries, rfl, ?_⟩
  rw [Processor.process, heffect]
  rfl

end

theorem callEach_succ (start count : Nat) (call : Call) :
    callEach start (count + 1) call = (start, call) :: callEach (start + 1) count call := rfl

/-- Processors are initialised in order, up to one that fails. -/
theorem initAll_watch {env : Environment} {cs : List (Choice σ)} {s s' : Session σ}
    {outcome : Except Stop Unit} {ps : List (Processor σ)} (h : initAll env cs s = (outcome, ps, s'))
    (start : Nat) (before : List (Processor σ)) (notes : List CallNote) :
    ∃ more, s'.entries = s.entries ++ more.flatMap CallNote.left ∧
      initAll env ((watchAll start cs).map .custom) (s.watched before notes) =
        (outcome, (watchAll start (cs.take ps.length)).map .custom, s'.watched (before ++ ps) (notes ++ more)) ∧
      more.map CallNote.made = callEach start (min cs.length (ps.length + 1)) .init ∧
      (outcome = .ok () → ps.length = cs.length) := by
  induction cs generalizing s ps start before notes with
  | nil =>
    obtain ⟨rfl, rfl, rfl⟩ := by simpa only [initAll, Prod.mk.injEq] using h
    exact ⟨[], by simp, by simp [watchAll, initAll], rfl, fun _ => rfl⟩
  | cons c cs ih =>
    simp only [initAll] at h
    rcases hinit : c.init env s with ⟨stop | p, s₁⟩
    all_goals
      rw [hinit] at h
      obtain ⟨left, hleft, hwatch⟩ := init_watch env s before notes hinit start
    · obtain ⟨rfl, rfl, rfl⟩ := by simpa only [Prod.mk.injEq] using h
      refine ⟨[⟨start, .init, left⟩], by simp [hleft], ?_, by simp [CallNote.made, callEach], by simp⟩
      simp [watchAll, initAll, hwatch, Except.map, Except.toOption]
    · rcases hrest : initAll env cs s₁ with ⟨outcome₁, ps₁, s₂⟩
      obtain ⟨rfl, rfl, rfl⟩ := by simpa only [hrest, Prod.mk.injEq] using h
      obtain ⟨more, hmore, hrun, hmade, hcount⟩ :=
        ih hrest (start + 1) (before ++ [p]) (notes ++ [⟨start, .init, left⟩])
      refine ⟨⟨start, .init, left⟩ :: more, by simp [hmore, hleft], ?_, ?_, ?_⟩
      · simp only [watchAll, List.map_cons, initAll, hwatch, Except.map, Except.toOption, Option.toList,
          hrun, List.length_cons, List.take_succ_cons, List.append_assoc, List.cons_append, List.nil_append]
      · simp [hmade, CallNote.made, Nat.add_min_add_right, callEach_succ]
      · exact fun hok => congrArg (· + 1) (hcount hok)

/-- A round is passed to processors in order, up to one that fails. -/
theorem processAll_watch {env : Environment} {round : Round} {ps ps' : List (Processor σ)} {s s' : Session σ}
    {outcome : Except Stop Unit} (h : processAll env round ps s = (outcome, ps', s'))
    {cs : List (Choice σ)} (hcs : cs.length = ps.length) (before : List (Processor σ))
    (notes : List CallNote) :
    ∃ more, s'.entries = s.entries ++ more.flatMap CallNote.left ∧
      processAll env round ((watchAll before.length cs).map .custom) (s.watched (before ++ ps) notes) =
        (outcome, (watchAll before.length cs).map .custom, s'.watched (before ++ ps') (notes ++ more)) ∧
      ps'.length = ps.length ∧
      (outcome = .ok () → more.map CallNote.made = callEach before.length cs.length (.round round)) := by
  induction ps generalizing s ps' cs before notes with
  | nil =>
    obtain rfl := List.length_eq_zero_iff.mp hcs
    obtain ⟨rfl, rfl, rfl⟩ := by simpa only [processAll, Prod.mk.injEq] using h
    exact ⟨[], by simp, by simp [watchAll, processAll], rfl, fun _ => rfl⟩
  | cons p ps ih =>
    obtain ⟨c, cs, rfl⟩ := List.exists_cons_of_length_eq_add_one hcs
    simp only [processAll] at h
    rcases hprocess : p.process env round s with ⟨outcome₁, p₁, s₁⟩
    rw [hprocess] at h
    obtain ⟨left, hleft, hwatch⟩ := process_watch env s (before ++ p :: ps) notes hprocess c
      (i := before.length) (by simp)
    -- the processors in `before` have had their call, and stay as they are
    have hset : (before ++ p :: ps).set before.length p₁ = before ++ p₁ :: ps := by simp
    rw [hset] at hwatch
    cases outcome₁ with
    | error stop =>
      obtain ⟨rfl, rfl, rfl⟩ := by simpa only [Prod.mk.injEq] using h
      refine ⟨[⟨before.length, .round round, left⟩], by simp [hleft], ?_, rfl, ?_⟩
      · simp only [watchAll, List.map_cons, processAll, hwatch]
      · intro hok
        cases hok
    | ok =>
      rcases hrest : processAll env round ps s₁ with ⟨outcome₂, ps₂, s₂⟩
      obtain ⟨rfl, rfl, rfl⟩ := by simpa only [hrest, Prod.mk.injEq] using h
      obtain ⟨more, hmore, hrun, hlength, hmade⟩ := ih hrest (Nat.succ.inj hcs) (before ++ [p₁])
        (notes ++ [⟨before.length, .round round, left⟩])
      simp only [List.length_append, List.length_singleton, List.append_assoc, List.singleton_append]
        at hrun hmade
      refine ⟨⟨before.length, .round round, left⟩ :: more, by simp [hmore, hleft], ?_, by simp [hlength], ?_⟩
      · simp only [watchAll, List.map_cons, processAll, hwatch, hrun]
      · intro hok
        simp [hmade hok, CallNote.made, callEach_succ]

/-- The calls that pass rounds to as many processors, round by round. -/
def roundCalls (count : Nat) (rounds : List Round) : List (Nat × Call) :=
  rounds.flatMap fun r => callEach 0 count (.round r)

/-- The rounds of a run: one for each package whose annotations are not in error, and the last one. -/
def roundsWith (program : Program) (packages : List Package) (known : Known) : List Round :=
  (roundsOf program packages known).filterMap Except.toOption ++ [.last]

def skippedIn (program : Program) (packages : List Package) (known : Known) : Nat :=
  (roundsOf program packages known).countP fun r => !r.isOk

section
variable {program : Program} {pkg : Package} {known known' : Known} (packages : List Package)

theorem roundsWith_error {e : Misuse} (h : scan program pkg known = (.error e, known')) :
    roundsWith program (pkg :: packages) known = roundsWith program packages known' := by
  rw [roundsWith, roundsOf, h]
  rfl

theorem roundsWith_ok {found : List Found} (h : scan program pkg known = (.ok found, known')) :
    roundsWith program (pkg :: packages) known =
      .package pkg found known' :: roundsWith program packages known' := by
  rw [roundsWith, roundsOf, h]
  rfl

theorem skippedIn_error {e : Misuse} (h : scan program pkg known = (.error e, known')) :
    skippedIn program (pkg :: packages) known = skippedIn program packages known' + 1 := by
  rw [skippedIn, roundsOf, h]
  exact List.countP_cons_of_pos rfl

theorem skippedIn_ok {found : List Found} (h : scan program pkg known = (.ok found, known')) :
    skippedIn program (pkg :: packages) known = skippedIn program packages known' := by
  rw [skippedIn, roundsOf, h]
  exact List.countP_cons_of_neg (by simp [Except.map, Except.isOk, Except.toBool])

end

/-- The rounds of the packages come in order, and the last round after them. -/
theorem processRounds_watch {env : Environment} {packages : List Package} {known : Known}
    {ps ps' : List (Processor σ)} {s s' : Session σ} {outcome : Except Stop Unit}
    (h : processRounds env packages known ps s = (outcome, ps', s')) {cs : List (Choice σ)}
    (hcs : cs.length = ps.length) (notes : List CallNote) :
    ∃ more,
      processRounds env packages known ((watchAll 0 cs).map .custom) (s.watched ps notes) =
        (outcome, (watchAll 0 cs).map .custom, s'.watched ps' (notes ++ more)) ∧
      (outcome = .ok () →
        more.map CallNote.made = roundCalls cs.length (roundsWith env.program packages known) ∧
        errorsIn s'.entries =
          errorsIn s.entries + errorsLeft more + skippedIn env.program packages known) := by
  induction packages generalizing known s ps notes with
  | nil =>
    simp only [processRounds] at h
    obtain ⟨more, hmore, hrun, -, hmade⟩ := processAll_watch h hcs [] notes
    refine ⟨more, hrun, fun hok => ⟨?_, ?_⟩⟩
    · rw [hmade hok]
      simp [roundCalls, roundsWith, roundsOf]
    · rw [hmore, errorsIn_append, errorsIn_left, errorsIn_entries_log]
      rfl
  | cons pkg packages ih =>
    simp only [processRounds] at h ⊢
    rcases hscan : scan env.program pkg known with ⟨e | found, known'⟩
    all_goals rw [hscan] at h
    · obtain ⟨more, hrun, hall⟩ := ih h hcs notes
      refine ⟨more, hrun, fun hok => ?_⟩
      obtain ⟨hmade, herrors⟩ := hall hok
      rw [errorsIn_entries_misuse, errorsIn_entries_log] at herrors
      rw [roundsWith_error packages hscan, skippedIn_error packages hscan]
      exact ⟨hmade, by omega⟩
    · dsimp only at h ⊢
      rcases hround : processAll env (.package pkg found known') ps
        (s.log ⟨.info, "processing package", [("package", .text pkg.path)]⟩) with ⟨outcome₁, ps₁, s₁⟩
      rw [hround] at h
      obtain ⟨first, hfirst, hwatch, hlength, hmade₁⟩ := processAll_watch hround hcs [] notes
      simp only [List.nil_append, List.length_nil, Session.log_watched] at hwatch hmade₁
      cases outcome₁ with
      | error stop =>
        obtain ⟨rfl, rfl, rfl⟩ := by simpa only [Prod.mk.injEq] using h
        refine ⟨first, ?_, ?_⟩
        · rw [hwatch]
        · intro hok
          cases hok
      | ok =>
        obtain ⟨more, hrun, hall⟩ := ih h (hcs.trans hlength.symm) (notes ++ first)
        refine ⟨first ++ more, ?_, fun hok => ?_⟩
        · rw [hwatch]
          dsimp only
          rw [hrun, List.append_assoc]
        · obtain ⟨hmade, herrors⟩ := hall hok
          rw [hfirst, errorsIn_append, errorsIn_left, errorsIn_entries_log] at herrors
          rw [roundsWith_ok packages hscan, skippedIn_ok packages hscan, List.map_append, hmade₁ rfl, hmade,
            errorsLeft_append]
          exact ⟨rfl, by omega⟩

inductive Choice.Gives (env : Environment) (c : Choice σ) : Processor σ → Prop
  | init {s s' : Session σ} {p : Processor σ} : c.init env s = (.ok p, s') → c.Gives env p
  | process {p : Processor σ} (round : Round) (s : Session σ) :
    c.Gives env p → c.Gives env (p.process env round s).2.1

structure Choice.NeverFails (env : Environment) (c : Choice σ) : Prop where
  init : ∀ s, ∃ p s', c.init env s = (.ok p, s')
  process : ∀ p, c.Gives env p → ∀ round s, (p.process env round s).1 = .ok ()

theorem neverFails_services (env : Environment) : (Choice.builtin .services : Choice σ).NeverFails env where
  init s := ⟨_, _, rfl⟩
  process p hp round s := by
    have hservices : ∃ phase index, p = .services phase index := by
      induction hp with
      | init h => exact ⟨_, _, (Except.ok.inj (Prod.mk.inj h).1).symm⟩
      | process round s _ ih =>
        obtain ⟨phase, index, rfl⟩ := ih
        exact ⟨_, _, rfl⟩
    obtain ⟨phase, index, rfl⟩ := hservices
    rfl

theorem neverFails_custom {env : Environment} {c : Custom σ}
    (hinit : ∀ tree extra, (c.init env tree extra).outcome = .ok ())
    (hprocess : ∀ round tree extra, (c.process env round tree extra).outcome = .ok ()) :
    (Choice.custom c).NeverFails env where
  init s := ⟨.custom c, s.apply (c.init env s.tree s.extra), by rw [Choice.init, hinit]; rfl⟩
  process p hp round s := by
    have hcustom : p = .custom c := by
      induction hp with
      | init h =>
        rw [Choice.init, hinit] at h
        exact (Except.ok.inj (Prod.mk.inj h).1).symm
      | process round s _ ih => rw [ih]; rfl
    rw [hcustom]
    exact hprocess round s.tree s.extra

section
variable {env : Environment} {cs : List (Choice σ)} (hcs : ∀ c ∈ cs, c.NeverFails env)
include hcs

theorem initAll_neverFails (s : Session σ) :
    ∃ ps s', initAll env cs s = (.ok (), ps, s') ∧ List.Forall₂ (·.Gives env ·) cs ps := by
  induction cs generalizing s with
  | nil => exact ⟨[], s, rfl, .nil⟩
  | cons c cs ih =>
    obtain ⟨hc, hcs⟩ := List.forall_mem_cons.mp hcs
    obtain ⟨p, s₁, hinit⟩ := hc.init s
    obtain ⟨ps, s₂, hrest, hgives⟩ := ih hcs s₁
    refine ⟨p :: ps, s₂, ?_, .cons (.init hinit) hgives⟩
    simp only [initAll, hinit, hrest]

theorem processAll_neverFails (round : Round) {ps : List (Processor σ)}
    (hps : List.Forall₂ (·.Gives env ·) cs ps) (s : Session σ) :
    ∃ ps' s', processAll env round ps s = (.ok (), ps', s') ∧ List.Forall₂ (·.Gives env ·) cs ps' := by
  induction hps generalizing s with
  | nil => exact ⟨[], s, rfl, .nil⟩
  | @cons c p cs ps hp _ ih =>
    obtain ⟨hc, hcs⟩ := List.forall_mem_cons.mp hcs
    have hok := hc.process p hp round s
    have hp' := Choice.Gives.process round s hp
    rcases hprocess : p.process env round s with ⟨outcome, p', s₁⟩
    rw [hprocess] at hok hp'
    obtain rfl : outcome = .ok () := hok
    obtain ⟨ps', s₂, hrest, hgives⟩ := ih hcs s₁
    refine ⟨p' :: ps', s₂, ?_, .cons hp' hgives⟩
    simp only [processAll, hprocess, hrest]

theorem processRounds_neverFails (packages : List Package) (known : Known) {ps : List (Processor σ)}
    (hps : List.Forall₂ (·.Gives env ·) cs ps) (s : Session σ) :
    (processRounds env packages known ps s).1 = .ok () := by
  induction packages generalizing known ps s with
  | nil =>
    obtain ⟨ps', s', hlast, -⟩ := processAll_neverFails hcs .last hps
      (s.log { level := .debug, message := "processing terminal round" })
    rw [processRounds, hlast]
  | cons pkg packages ih =>
    simp only [processRounds]
    rcases scan env.program pkg known with ⟨e | found, known'⟩
    · exact ih known' hps _
    · obtain ⟨ps', s', hround, hps'⟩ := processAll_neverFails hcs (.package pkg found known') hps
        (s.log ⟨.info, "processing package", [("package", .text pkg.path)]⟩)
      simp only [hround]
      exact ih known' hps' s'

end

theorem Outcome.ofEntries_eq (entries : List Entry) :
    ofEntries entries = if errorsIn entries = 0 then .ok else .errorsReported (errorsIn entries) := by
  rw [ofEntries, errorsIn]
  cases countOf .error (reportsOf entries) with
  | zero => rfl
  | succ n => simp

theorem initAll_error {env : Environment} {before : List (Choice σ)} {c : Choice σ} {stop : Stop}
    {s s₁ s₂ : Session σ} {ps : List (Processor σ)} (hbefore : initAll env before s = (.ok (), ps, s₁))
    (hc : c.init env s₁ = (.error stop, s₂)) (after : List (Choice σ)) :
    initAll env (before ++ c :: after) s = (.error stop, ps, s₂) ∧ ps.length = before.length := by
  induction before generalizing s ps with
  | nil =>
    obtain ⟨-, rfl, rfl⟩ := by simpa only [initAll, Prod.mk.injEq] using hbefore
    simp [initAll, hc]
  | cons b before ih =>
    simp only [initAll] at hbefore
    rcases hinit : b.init env s with ⟨stop' | p, s'⟩
    all_goals rw [hinit] at hbefore
    · cases hbefore
    · rcases hrest : initAll env before s' with ⟨outcome, ps', s''⟩
      obtain ⟨rfl, rfl, rfl⟩ := by simpa only [hrest, Prod.mk.injEq] using hbefore
      obtain ⟨hall, hlength⟩ := ih hrest
      simp [initAll, hinit, hall, hlength]

theorem orBuiltin_ne_nil (choices : List (Choice σ)) : Choice.orBuiltin choices ≠ [] := by
  unfold Choice.orBuiltin
  split
  · simp [Processing.builtin]
  · exact fun h => absurd (List.isEmpty_iff.mpr h) ‹_›

/-- Watched processors are run in place of those that they watch. -/
theorem orBuiltin_watchAll {cs : List (Choice σ)} (hcs : cs ≠ []) :
    Choice.orBuiltin ((watchAll 0 cs).map .custom) = (watchAll 0 cs).map .custom := by
  cases cs with
  | nil => exact (hcs rfl).elim
  | cons c cs => rfl

/-- A run of processors that never fail comes to its end. -/
theorem run_neverFails {env : Environment} {choices : List (Choice σ)}
    (hall : ∀ c ∈ Choice.orBuiltin choices, c.NeverFails env.inDirectory) (packages : List Package)
    (s : Session σ) (stop : Stop) : (runProcessors env choices packages s).1 ≠ .stopped stop := by
  obtain ⟨ps, s₀, hinit, hgives⟩ := initAll_neverFails hall s
  have hrounds := processRounds_neverFails hall packages {} hgives s₀
  rw [runProcessors_eq, hinit]
  dsimp only
  rcases hrun : processRounds env.inDirectory packages {} ps s₀ with ⟨result, ps', s'⟩
  rw [hrun] at hrounds
  obtain rfl : result = .ok () := hrounds
  dsimp only
  rw [Outcome.ofEntries_eq]
  split
  · intro h
    cases h
  · intro h
    cases h

section
variable {env : Environment} {choices : List (Choice σ)} {packages : List Package} {tree : Tree} {extra : σ}
  {outcome : Outcome} {ps : List (Processor σ)} {s' : Session σ}

/-- A run goes the same way when it is watched. -/
theorem run_watch (hrun : runProcessors env choices packages { tree, extra } = (outcome, ps, s')) :
    let all := Choice.orBuiltin choices
    let start : Session σ := { tree, extra }
    let watched := runProcessors env ((watchAll 0 all).map .custom) packages (start.watched [] [])
    ∃ notes, watched.1 = outcome ∧ watched.2.2 = s'.watched ps notes ∧
      ((∀ stop, outcome ≠ .stopped stop) →
        notes.map CallNote.made =
          callEach 0 all.length .init ++ roundCalls all.length (roundsWith env.program packages {}) ∧
        outcome = .ofEntries s'.entries ∧
        errorsIn s'.entries = errorsLeft notes + skippedIn env.program packages {}) ∧
      (∀ stop ps₁ s₁, initAll env.inDirectory all start = (.error stop, ps₁, s₁) →
        outcome = .stopped stop ∧
        notes.map CallNote.made = callEach 0 (min all.length (ps₁.length + 1)) .init) := by
  intro all start watched
  have hwatched : watched = _ := runProcessors_eq env _ packages _
  rw [orBuiltin_watchAll (orBuiltin_ne_nil choices)] at hwatched
  rw [runProcessors_eq] at hrun
  rcases hinit : initAll env.inDirectory all start with ⟨result, ps₀, s₀⟩
  obtain ⟨first, hfirst, hwatch, hinits, hcount⟩ := initAll_watch hinit 0 [] []
  rw [hinit] at hrun
  rw [hwatch] at hwatched
  cases result with
  | error stop =>
    obtain ⟨rfl, rfl, rfl⟩ := by simpa only [Prod.mk.injEq] using hrun
    refine ⟨first, by rw [hwatched], by rw [hwatched]; rfl, fun hend => (hend stop rfl).elim, ?_⟩
    rintro _ _ _ ⟨⟩
    exact ⟨rfl, hinits⟩
  | ok =>
    have hlength := hcount rfl
    rcases hrounds : processRounds env.inDirectory packages {} ps₀ s₀ with ⟨result, ps₁, s₁⟩
    obtain ⟨more, hmore, hrest⟩ := processRounds_watch hrounds hlength.symm first
    dsimp only at hrun hwatched
    rw [hrounds] at hrun
    rw [hlength, List.take_length, List.nil_append, List.nil_append, hmore] at hwatched
    cases result with
    | error stop =>
      obtain ⟨rfl, rfl, rfl⟩ := by simpa only [Prod.mk.injEq] using hrun
      refine ⟨first ++ more, by rw [hwatched], by rw [hwatched], fun hend => (hend stop rfl).elim, ?_⟩
      rintro _ _ _ ⟨⟩
    | ok =>
      obtain ⟨rfl, rfl, rfl⟩ := by simpa only [Prod.mk.injEq] using hrun
      obtain ⟨hmade, herrors⟩ := hrest rfl
      refine ⟨first ++ more, by rw [hwatched]; rfl, by rw [hwatched], fun _ => ⟨?_, rfl, ?_⟩, ?_⟩
      · rw [List.map_append, hinits, hmade, hlength, env.program_inDirectory, Nat.min_eq_left (Nat.le_succ _)]
      · have hstart : errorsIn s₀.entries = errorsLeft first := by
          rw [hfirst, errorsIn_append, errorsIn_left]
          exact Nat.zero_add _
        rw [herrors, hstart, errorsLeft_append, env.program_inDirectory]
      · rintro _ _ _ ⟨⟩

/-- The calls of a run are seen by watching its processors. If it is not stopped, each processor was
initialised in order and then was given each round, the last one included; the run fails exactly if errors were
reported, with the number of those that calls left behind and one for each package in error. A processor that
cannot be initialised stops the run before any round. -/
theorem run_calls (hrun : runProcessors env choices packages { tree, extra } = (outcome, ps, s')) :
    let all := Choice.orBuiltin choices
    let start : Session σ := { tree, extra }
    let watched := runProcessors env ((watchAll 0 all).map .custom) packages (start.watched [] [])
    ∃ notes, watched.1 = outcome ∧ watched.2.2 = s'.watched ps notes ∧
      ((∀ c ∈ all, c.NeverFails env.inDirectory) → ∀ stop, outcome ≠ .stopped stop) ∧
      ((∀ stop, outcome ≠ .stopped stop) →
        notes.map CallNote.made =
          callEach 0 all.length .init ++ roundCalls all.length (roundsWith env.program packages {}) ∧
        outcome = (if errorsIn s'.entries = 0 then .ok else .errorsReported (errorsIn s'.entries)) ∧
        errorsIn s'.entries = errorsLeft notes + skippedIn env.program packages {}) ∧
      (∀ before c after ps₁ s₁ stop s₂, all = before ++ c :: after →
        initAll env.inDirectory before start = (.ok (), ps₁, s₁) →
        c.init env.inDirectory s₁ = (.error stop, s₂) →
        outcome = .stopped stop ∧ notes.map CallNote.made = callEach 0 (before.length + 1) .init) := by
  intro all start watched
  obtain ⟨notes, houtcome, hsession, hend, herror⟩ := run_watch hrun
  refine ⟨notes, houtcome, hsession, ?_, ?_, ?_⟩
  · intro hall stop
    have hstop := run_neverFails hall packages start stop
    rwa [hrun] at hstop
  · intro hnot
    obtain ⟨hmade, hcounted, herrors⟩ := hend hnot
    exact ⟨hmade, hcounted.trans (Outcome.ofEntries_eq _), herrors⟩
  · intro before c after ps₁ s₁ stop s₂ hsplit hbefore hc
    obtain ⟨hfails, hlength⟩ := initAll_error hbefore hc after
    rw [← hsplit] at hfails
    obtain ⟨hstopped, hmade⟩ := herror stop ps₁ s₂ hfails
    have hcount : min all.length (ps₁.length + 1) = before.length + 1 := by
      rw [hsplit, hlength, List.length_append, List.length_cons]
      omega
    exact ⟨hstopped, hcount ▸ hmade⟩

end

namespace Villages

def packageOf (id : String) (files : List Source.File) : Package where
  id := id
  path := id
  name := id
  dir := Bytes.ofString id
  files := files

def brokenDoc : Source.CommentGroup := [⟨"// @Mark(".toList, { line := 3, column := 1, offset := 14 }⟩]

def brokenFile : Source.File where
  path := "middle/village.go"
  packageName := "middle"
  doc := none
  imports := []
  decls := [.type
    { doc := some brokenDoc
      name := ⟨"Village", { line := 4, column := 6, offset := 29 }⟩
      params := []
      isAlias := false
      body := .struct [] }]
  docs := [brokenDoc]
  size := 16

def north : Package := packageOf "north" []
def middle : Package := packageOf "middle" [brokenFile]
def south : Package := packageOf "south" []

def environment : Environment where
  options := ∅
  outputDir := []
  sources := .tree
  program := { packages := [north, middle, south] }

def start : Session Unit := { tree := {}, extra := () }

def complaining : Custom Unit where
  init _ tree _ := { outcome := .ok (), tree, extra := () }
  process _ round tree _ :=
    { outcome := .ok ()
      entries := match round with
        | .package pkg _ _ => [.report ⟨.error, {}, pkg.path⟩]
        | .last => []
      tree, extra := () }

def chosen : List (Choice Unit) := [.custom complaining, .builtin .services]

theorem orBuiltin_chosen : Choice.orBuiltin chosen = chosen := rfl

theorem neverFails_chosen (env : Environment) : ∀ c ∈ chosen, c.NeverFails env :=
  List.forall_mem_cons.mpr ⟨neverFails_custom (fun _ _ => rfl) (fun _ _ _ => rfl),
    List.forall_mem_singleton.mpr (neverFails_services env)⟩

def readCall (c : Nat × Call) : Nat × String :=
  match c.2 with
  | .init => (c.1, "init")
  | .round (.package pkg _ _) => (c.1, pkg.path)
  | .round .last => (c.1, "last")

end Villages

open Villages in
theorem run_calls_between :
    ∃ ps s' notes,
      runProcessors environment chosen [north, middle, south] start = (.errorsReported 3, ps, s') ∧
      errorsIn s'.entries = 3 ∧
      (runProcessors environment ((watchAll 0 chosen).map .custom) [north, middle, south]
        (start.watched [] [])).2.2 = s'.watched ps notes ∧
      (notes.map CallNote.made).map readCall =
        [(0, "init"), (1, "init"), (0, "north"), (1, "north"), (0, "south"), (1, "south"),
          (0, "last"), (1, "last")] := by
  have herrors : errorsIn (runProcessors environment chosen [north, middle, south] start).2.2.entries = 3 := by
    decide +kernel
  have hcalls : (callEach 0 chosen.length .init ++ roundCalls chosen.length
      (roundsWith environment.program [north, middle, south] {})).map readCall =
        [(0, "init"), (1, "init"), (0, "north"), (1, "north"), (0, "south"), (1, "south"),
          (0, "last"), (1, "last")] := by
    decide +kernel
  rcases hrun : runProcessors environment chosen [north, middle, south] start with ⟨outcome, ps, s'⟩
  rw [hrun] at herrors
  obtain ⟨notes, -, hnotes, hnever, hend, -⟩ := run_calls hrun
  rw [orBuiltin_chosen, show ({ tree := {}, extra := () } : Session Unit) = start from rfl] at hnotes
  obtain ⟨hmade, houtcome, -⟩ := hend (hnever (neverFails_chosen _))
  rw [orBuiltin_chosen] at hmade
  rw [herrors] at houtcome
  refine ⟨ps, s', notes, ?_, herrors, hnotes, ?_⟩
  · rw [houtcome]
    rfl
  · rw [hmade, hcalls]

end ServiceAnnotations.Processing
