import ServiceAnnotations.Processing.Generators
import ServiceAnnotations.Processing.Plugins
import ServiceAnnotations.Registry.Registrar

/-! # Running processors over packages

Every processor is initialised once, then sees one round for each package, and a last round at the
end. -/
namespace ServiceAnnotations.Processing
open Elements Files Registry ServiceAnnotations.Types

/-- A processor that does not come with the program. It keeps what it keeps in a value of type `σ`. -/
structure Custom (σ : Type) where
  init : Environment → Tree → σ → Effect σ
  process : Environment → Round → Tree → σ → Effect σ

/-- A processor to run. -/
inductive Choice (σ : Type)
  | builtin (kind : ProcessorKind)
  | custom (c : Custom σ)

/-- A processor with its state. -/
inductive Processor (σ : Type)
  | services (phase : Phase) (index : Index)
  | setters
  | toStrings
  | immutable (policy : Policy)
  | custom (c : Custom σ)

variable {σ : Type}

def serviceSettings (options : ByteMap Bytes) : Registry.Settings :=
  .ofOptions options (moduleAnnot "Provides") (moduleAnnot "SuppressWarnings")

/-- The packages and the files below the output directory as a host. -/
def serviceHost (env : Environment) : Host TypeName Tree where
  isSubtype t interface tree := (.ok (env.program.isSubtype t interface), tree)
  isErasedSubtype t interface tree := (.ok (env.program.isErasedSubtype t interface), tree)
  read path tree := (.ok (tree.read (Path.join env.outputDir path)), tree)
  write path content tree :=
    let path := outputPath env.outputDir path
    match tree.create path with
    | .ok tree => (none, tree.write path content)
    | .error cause => (some ⟨.create, .error cause⟩, tree)

def entryOf? : Event TypeName → Option Entry
  | .message m => some (.report (.ofMessage m))
  | .logged d => some (.log { level := .debug, message := d.text })
  | .loggedFailure cause =>
    some (.log ⟨.error, "service registry processing failed", [("error", .text cause)]⟩)
  | .loggedWrite path count =>
    some (.log ⟨.debug, "wrote registry file", [("path", .text path), ("providers", .number count)]⟩)
  | .asked _ | .read _ _ | .wrote _ _ => none

def processServices (env : Environment) (phase : Phase) (index : Index) (round : Round)
    (s : Session σ) : Processor σ × Session σ :=
  let start : Registry.Run TypeName Tree := { phase, index, files := s.tree }
  let shown : Registry.Round TypeName := match round with
    | .package _ found _ =>
      { isLast := .ok false, annotated type := .ok (((Listing.of found).annotatedWith type).map Found.element) }
    | .last => .of (.ok true) []
  let r := answer (serviceHost env) .attentive (serviceSettings env.options) start (.process shown)
  (.services r.phase r.index,
    { s with tree := r.files, entries := s.entries ++ r.events.filterMap entryOf? })

def Choice.init (env : Environment) (c : Choice σ) (s : Session σ) :
    Except Stop (Processor σ) × Session σ :=
  match c with
  | .builtin .services => (.ok (.services .collecting ∅), s)
  | .builtin .setters => (.ok .setters, s)
  | .builtin .toStrings => (.ok .toStrings, s)
  | .builtin .immutable =>
    (((Policy.ofOptions env.options).map Processor.immutable).mapError Stop.failed, s)
  | .custom c =>
    let e := c.init env s.tree s.extra
    (e.outcome.map fun _ => .custom c, s.apply e)

def Processor.process (env : Environment) (p : Processor σ) (round : Round) (s : Session σ) :
    Except Stop Unit × Processor σ × Session σ :=
  match p, round with
  | .services phase index, round =>
    let (p, s) := processServices env phase index round s
    (.ok (), p, s)
  | .custom c, round =>
    let e := c.process env round s.tree s.extra
    (e.outcome, p, s.apply e)
  | .setters, .package pkg found known =>
    let (outcome, s) :=
      runGenerator env "Setter" "setters.autoserv.go" (generateSetters env.writer) pkg found known s
    (outcome, p, s)
  | .toStrings, .package pkg found known =>
    let (outcome, s) := runGenerator env "ToString" "autoserv.go" generateFormat pkg found known s
    (outcome, p, s)
  | .immutable policy, .package pkg found known =>
    let (outcome, s) :=
      runGenerator env "Immutable" "immutable.autoserv.go" (generateImmutable policy env.writer) pkg found known s
    (outcome, p, s)
  | p, .last => (.ok (), p, s)

def initAll (env : Environment) : List (Choice σ) → Session σ →
    Except Stop Unit × List (Processor σ) × Session σ
  | [], s => (.ok (), [], s)
  | c :: rest, s =>
    match c.init env s with
    | (.error stop, s) => (.error stop, [], s)
    | (.ok p, s) =>
      let (outcome, ps, s) := initAll env rest s
      (outcome, p :: ps, s)

def processAll (env : Environment) (round : Round) : List (Processor σ) → Session σ →
    Except Stop Unit × List (Processor σ) × Session σ
  | [], s => (.ok (), [], s)
  | p :: rest, s =>
    match p.process env round s with
    | (.error stop, p, s) => (.error stop, p :: rest, s)
    | (.ok (), p, s) =>
      let (outcome, ps, s) := processAll env round rest s
      (outcome, p :: ps, s)

def Report.ofMisuse (e : Misuse) : Report := ⟨.error, e.pos, Bytes.ofString e.error.message⟩

/-- Passes the rounds of packages and the last round to processors. A package whose annotations are in
error has no round. -/
def processRounds (env : Environment) : List Package → Known → List (Processor σ) → Session σ →
    Except Stop Unit × List (Processor σ) × Session σ
  | [], _, ps, s =>
    processAll env .last ps (s.log { level := .debug, message := "processing terminal round" })
  | pkg :: rest, known, ps, s =>
    let s := s.log ⟨.info, "processing package", [("package", .text pkg.path)]⟩
    match scan env.program pkg known with
    | (.error e, known) => processRounds env rest known ps (s.report (.ofMisuse e))
    | (.ok found, known) =>
      match processAll env (.package pkg found known) ps s with
      | (.error stop, ps, s) => (.error stop, ps, s)
      | (.ok (), ps, s) => processRounds env rest known ps s

inductive Outcome
  | ok
  | errorsReported (count : Nat)
  | stopped (stop : Stop)
  deriving DecidableEq, Repr

/-- Runs processors over packages. Without a choice of processors, all that come with the program are
run. The processors that were initialised are given back with their states. -/
def runProcessors (env : Environment) (choices : List (Choice σ)) (packages : List Package)
    (s : Session σ) : Outcome × List (Processor σ) × Session σ :=
  let env := if env.outputDir = [] then { env with outputDir := Path.here } else env
  let choices := if choices.isEmpty then builtin.map fun b => .builtin b.2 else choices
  match initAll env choices s with
  | (.error stop, ps, s) => (.stopped stop, ps, s)
  | (.ok (), ps, s) =>
    match processRounds env packages {} ps s with
    | (.error stop, ps, s) => (.stopped stop, ps, s)
    | (.ok (), ps, s) =>
      match countOf .error (reportsOf s.entries) with
      | 0 => (.ok, ps, s)
      | n => (.errorsReported n, ps, s)

end ServiceAnnotations.Processing
