import ServiceAnnotations.Command.Flags

/-! # What arguments give

Arguments give flags with their values, one after another, until something else comes. Each argument has a meaning
of its own where a flag is expected. -/
namespace ServiceAnnotations.Command

inductive Meaning
  /-- Nothing behind it is a flag. -/
  | dashes
  /-- It is no flag, and so is nothing behind it. -/
  | other
  | sets (f : Flag) (value : Bytes)
  /-- The next argument is the value of the flag. -/
  | awaits (f : Flag)
  | help
  | refused (e : FlagError)
  deriving DecidableEq, Repr

def meaningOfSpec (arg spec : Bytes) : Meaning :=
  if spec.head? = some 0x2d || spec.head? = some 0x3d then .refused (.badSyntax arg)
  else
    let name := spec.takeWhile (· != 0x3d)
    match Flag.all.find? fun f => Bytes.ofString f.name = name with
    | none => if name = Bytes.ofString "help" || name = Bytes.ofString "h" then .help else .refused (.undefined name)
    | some f =>
      if name.length < spec.length then .sets f (spec.drop (name.length + 1))
      else if f.valueName.isNone then .sets f "true"
      else .awaits f

def meaningOf (arg : Bytes) : Meaning :=
  if arg = Bytes.ofString "--" then .dashes
  else match flagName? arg with
    | none => .other
    | some spec => meaningOfSpec arg spec

inductive FlagsEnd
  | rest (args : List Bytes)
  | help
  | refused (e : FlagError)
  deriving DecidableEq, Repr

/-- What arguments give: flags with their values, in order, and what ends them. -/
structure Given where
  flags : List (Flag × Bytes) := []
  ending : FlagsEnd
  deriving DecidableEq, Repr

/-- A flag in front of others. -/
def Given.after (g : Given) (f : Flag) (value : Bytes) : Given := { g with flags := (f, value) :: g.flags }

/-- What arguments give if each has the given meaning where a flag is expected. -/
def givenBy (meaning : Bytes → Meaning) : List Bytes → Given
  | [] => { ending := .rest [] }
  | arg :: rest =>
    match meaning arg, rest with
    | .dashes, rest => { ending := .rest rest }
    | .other, rest => { ending := .rest (arg :: rest) }
    | .sets f value, rest => (givenBy meaning rest).after f value
    | .awaits f, [] => { ending := .refused (.noValue f) }
    | .awaits f, value :: rest => (givenBy meaning rest).after f value
    | .help, _ => { ending := .help }
    | .refused e, _ => { ending := .refused e }

def Request.setAll (r : Request) : List (Flag × Bytes) → Except FlagError Request
  | [] => .ok r
  | (f, value) :: more =>
    match r.set f value with
    | .ok r => r.setAll more
    | .error e => .error e

/-- What comes of what arguments give. -/
def Given.parsed (g : Given) (r : Request) : Parsed :=
  match r.setAll g.flags with
  | .error e => .refused e
  | .ok r =>
    match g.ending with
    | .rest rest => .request { r with rest }
    | .help => .help
    | .refused e => .refused e

section
variable {meaning : Bytes → Meaning} {arg : Bytes}

theorem givenBy_cons (rest : List Bytes) :
    givenBy meaning (arg :: rest) =
      match meaning arg, rest with
      | .dashes, rest => { ending := .rest rest }
      | .other, rest => { ending := .rest (arg :: rest) }
      | .sets f value, rest => (givenBy meaning rest).after f value
      | .awaits f, [] => { ending := .refused (.noValue f) }
      | .awaits f, value :: rest => (givenBy meaning rest).after f value
      | .help, _ => { ending := .help }
      | .refused e, _ => { ending := .refused e } :=
  givenBy.eq_def meaning (arg :: rest)

theorem givenBy_sets {f : Flag} {value : Bytes} (h : meaning arg = .sets f value) (rest : List Bytes) :
    givenBy meaning (arg :: rest) = (givenBy meaning rest).after f value := by
  rw [givenBy_cons, h]

theorem givenBy_awaits {f : Flag} (h : meaning arg = .awaits f) (value : Bytes) (rest : List Bytes) :
    givenBy meaning (arg :: value :: rest) = (givenBy meaning rest).after f value := by
  rw [givenBy_cons, h]

end

def Request.setThen (r : Request) (f : Flag) (value : Bytes) (next : Request → Parsed) : Parsed :=
  match r.set f value with
  | .ok r => next r
  | .error e => .refused e

theorem Given.parsed_after (g : Given) (r : Request) (f : Flag) (value : Bytes) :
    (g.after f value).parsed r = r.setThen f value g.parsed := by
  simp only [Given.parsed, Given.after, Request.setAll, Request.setThen]
  cases r.set f value <;> rfl

/-- Reading goes on behind an argument as its meaning tells. -/
theorem parseFlags_cons (r : Request) (arg : Bytes) (rest : List Bytes) :
    parseFlags r (arg :: rest) =
      match meaningOf arg, rest with
      | .dashes, rest => .request { r with rest }
      | .other, rest => .request { r with rest := arg :: rest }
      | .sets f value, rest => r.setThen f value fun r => parseFlags r rest
      | .awaits f, [] => .refused (.noValue f)
      | .awaits f, value :: rest => r.setThen f value fun r => parseFlags r rest
      | .help, _ => .help
      | .refused e, _ => .refused e := by
  rw [parseFlags, meaningOf]
  by_cases hdashes : arg = Bytes.ofString "--"
  · rw [if_pos hdashes, if_pos hdashes]
  rw [if_neg hdashes, if_neg hdashes]
  cases flagName? arg with
  | none => rfl
  | some spec =>
    simp only [meaningOfSpec]
    by_cases hsyntax : (decide (spec.head? = some 0x2d) || decide (spec.head? = some 0x3d)) = true
    · rw [if_pos hsyntax, if_pos hsyntax]
    rw [if_neg hsyntax, if_neg hsyntax]
    generalize spec.takeWhile (· != 0x3d) = name
    cases Flag.all.find? fun f => Bytes.ofString f.name = name with
    | none => by_cases hhelp : (decide (name = Bytes.ofString "help") || decide (name = Bytes.ofString "h")) = true <;>
        simp only [hhelp, if_true, if_false, Bool.false_eq_true]
    | some f =>
      by_cases hvalue : name.length < spec.length
      · simp only [hvalue, if_true]
        rfl
      · cases hname : f.valueName with
        | none => simp only [hvalue, if_false, hname]; rfl
        | some valueName => cases rest <;> simp only [hvalue, if_false, hname] <;> rfl

structure Request.Sets (r : Request) (f : Flag) (value : Bytes) (r' : Request) : Prop where
  outputDir : r'.outputDir = if f = .outputDir then some value else r.outputDir
  includeTests : r'.includeTests = if f = .includeTests then boolOf? value else r.includeTests
  processors : r'.processors = if f = .processors then some value else r.processors
  config : r'.config = if f = .config then value else r.config
  logFormat : r'.logFormat = if f = .logFormat then value else r.logFormat
  logLevel : r'.logLevel = if f = .logLevel then value else r.logLevel
  options : if f = .option then setOption r.options value = .ok r'.options else r'.options = r.options
  rest : r'.rest = r.rest

theorem Request.sets_of_set {r r' : Request} {f : Flag} {value : Bytes} (h : r.set f value = .ok r') :
    r.Sets f value r' := by
  cases f with
  | includeTests =>
    rw [Request.set] at h
    cases hvalue : boolOf? value <;> rw [hvalue] at h <;> cases h
    exact ⟨rfl, hvalue.symm, rfl, rfl, rfl, rfl, rfl, rfl⟩
  | option =>
    rw [Request.set] at h
    cases hset : setOption r.options value <;> rw [hset] at h <;> cases h
    exact ⟨rfl, rfl, rfl, rfl, rfl, rfl, hset, rfl⟩
  | _ =>
    cases h
    exact ⟨rfl, rfl, rfl, rfl, rfl, rfl, rfl, rfl⟩

theorem setThen_congr {r : Request} {f : Flag} {value : Bytes} {next next' : Request → Parsed}
    (h : ∀ r', r.set f value = .ok r' → next r' = next' r') :
    r.setThen f value next = r.setThen f value next' := by
  unfold Request.setThen
  split
  · exact h _ (by assumption)
  · rfl

/-- The flags that arguments give are set in their order. -/
theorem parseFlags_eq (args : List Bytes) {r : Request} (hrest : r.rest = []) :
    parseFlags r args = (givenBy meaningOf args).parsed r := by
  fun_induction givenBy meaningOf args generalizing r with
  | case1 =>
    rw [parseFlags, Given.parsed, Request.setAll]
    simp only [← hrest]
  | case2 arg rest h | case3 arg rest h | case5 arg f h | case7 arg rest h | case8 arg rest e h =>
    simp only [parseFlags_cons, h]
    rfl
  | case4 arg rest f value h ih | case6 arg f value rest h ih =>
    simp only [parseFlags_cons, h, Given.parsed_after]
    exact setThen_congr fun r' hr' => ih ((Request.sets_of_set hr').rest.trans hrest)

end ServiceAnnotations.Command
