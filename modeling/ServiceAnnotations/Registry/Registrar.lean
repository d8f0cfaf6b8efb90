import ServiceAnnotations.Registry.Host
import ServiceAnnotations.Registry.Index
import ServiceAnnotations.Registry.ServiceFile

/-! # Collecting providers and writing service files

A registrar collects providers over any number of rounds. In the last round it merges them with the
service files that are there and writes the result. -/
namespace ServiceAnnotations.Registry
open Text

/-- What a registrar looks for and how. -/
structure Settings where
  /-- The qualified name of the provider annotation. -/
  annotName : Bytes := "AutoService"
  /-- The qualified name of the annotation that suppresses warnings. -/
  suppressName : Bytes := "SuppressWarnings"
  /-- Whether providers are checked against their interfaces. -/
  verify : Bool := false
  /-- Whether notes are reported. -/
  debug : Bool := false
  deriving DecidableEq, Repr

/-- The settings that options ask for. An option counts by being there, whatever its value. -/
def Settings.ofOptions (options : ByteMap Bytes) (annotName suppressName : Bytes) : Settings where
  annotName := annotName
  suppressName := suppressName
  verify := options.contains "verify"
  debug := options.contains "debug"

def lastPart (name : Bytes) : Bytes := (name.reverse.takeWhile (· != 0x2e)).reverse

inductive Phase | collecting | emitting | done
  deriving DecidableEq, Repr

def Phase.text : Phase → String
  | collecting => "collecting"
  | emitting => "emitting"
  | done => "done"

def Phase.ofCode? : Int → Option Phase
  | 0 => some collecting
  | 1 => some emitting
  | 2 => some done
  | _ => none

inductive Call | collect | emit
  deriving DecidableEq, Repr

structure IllegalCall where
  call : Call
  phase : Phase
  deriving DecidableEq, Repr

def IllegalCall.message (i : IllegalCall) : Bytes :=
  (match i.call with
    | .collect => "process annotated elements while "
    | .emit => "emit while ") ++ i.phase.text ++
    ": registry: operation not allowed in current state"

/-- The state of a run: that of the registrar, the files, and all events so far. -/
structure Run (τ σ : Type) where
  phase : Phase := .collecting
  index : Index := ∅
  files : σ
  events : List (Event τ) := []

/-- A step of a run that may fail. What it did before it failed stays done. -/
abbrev Step (τ σ : Type) := ExceptT Failure (StateM (Run τ σ))

variable {τ σ : Type}

namespace Run

def record (r : Run τ σ) (e : Event τ) : Run τ σ := { r with events := r.events ++ [e] }

def setPhase (r : Run τ σ) (phase : Phase) : Run τ σ := { r with phase }

def setFiles (r : Run τ σ) (files : σ) : Run τ σ := { r with files }

def addProvider (r : Run τ σ) (interface provider : Bytes) : Run τ σ :=
  { r with index := r.index.add interface provider }

end Run

def callHost {α : Type} (call : σ → α × σ) : Step τ σ α := do
  let (answer, files) := call (← get).files
  modify (·.setFiles files)
  return answer

/-- The answer to a question about types; the question is recorded first. -/
def ask (q : Query τ) (call : σ → Except Failure Bool × σ) : Step τ σ Bool := do
  modify (·.record (.asked q))
  liftM (← callHost call)

def orBroken {α : Type} (x : Except Bytes α) : Step τ σ α :=
  liftM (x.mapError Failure.broken)

/-- Tells the host something. It is recorded first, so it is seen also if the host breaks down. -/
def say (l : Listener τ σ) (e : Event τ) : Step τ σ Unit := do
  modify (·.record e)
  match ← callHost (l e) with
  | none => pure ()
  | some cause => throw (.broken cause)

def report (l : Listener τ σ) (d : Diagnostic) (element : Option (Element τ)) (annot : Option (Annot τ)) :
    Step τ σ Unit :=
  say l (.message ⟨d, element, annot⟩)

def note (l : Listener τ σ) (s : Settings) (d : Diagnostic) : Step τ σ Unit := do
  say l (.logged d)
  if s.debug then report l d none none

def tell (l : Listener τ σ) (s : Settings) (d : Diagnostic) : Step τ σ Unit :=
  if d.severity = .note then note l s d else report l d none none

def fatal (l : Listener τ σ) (cause : Bytes) : Step τ σ Unit := do
  say l (.loggedFailure cause)
  report l (.fatal cause) none none

/-- Runs a step to its end or its failure, which is reported. If the host breaks down over the report,
so does the step. -/
def guarded (l : Listener τ σ) (step : Step τ σ Unit) : Step τ σ Unit :=
  tryCatch step fun f => fatal l f.message

inductive Verdict | reject | ok | rawOk
  deriving DecidableEq, Repr

def Verdict.text : Verdict → String
  | reject => "reject"
  | ok => "ok"
  | rawOk => "ok (raw)"

def Verdict.ofCode? : Int → Option Verdict
  | 0 => some reject
  | 1 => some ok
  | 2 => some rawOk
  | _ => none

def suppressesRawTypes (suppressName : Bytes) (annots : List (Annot τ)) : Bool :=
  (findAnnot annots suppressName).any fun a =>
    a.texts.any (trimBytes · = Bytes.ofString "rawtypes")

def Element.suppressesRawTypes (suppressName : Bytes) (e : Element τ) : Bool :=
  (e.decl :: e.outer).any fun d => Registry.suppressesRawTypes suppressName d.annots

/-- Checks that a provider conforms to an interface, or at least to some instance of it. -/
def check (h : Host τ σ) (l : Listener τ σ) (suppressName shownName : Bytes) (verify : Bool)
    (provider : Element τ) (token : τ) (interface : TypeRef τ) (annot : Option (Annot τ)) :
    Step τ σ Verdict := do
  if !verify then return .ok
  if ← ask (.exact token interface.token) (h.isSubtype token interface.token) then return .ok
  if !(← ask (.erased token interface.token) (h.isErasedSubtype token interface.token)) then
    return .reject
  if provider.suppressesRawTypes suppressName then return .ok
  report l (.rawType interface.frame.qualifiedName shownName) (some provider) annot
  return .rawOk

/-- What the caller of a check is told: a verdict, and the cause if the host answers with an error. An error
counts as a rejection. A host that breaks down leaves the caller without a reply. -/
def checkReply : Except Failure Verdict → Option (Verdict × Option Bytes)
  | .ok verdict => some (verdict, none)
  | .error (.error cause) => some (.reject, some cause)
  | .error (.broken _) => none

def collectInterfaces (h : Host τ σ) (l : Listener τ σ) (s : Settings) (e : Element τ) (provider : TypeRef τ)
    (annot : Annot τ) : List (TypeRef τ) → Step τ σ Unit
  | [] => pure ()
  | interface :: rest => do
    note l s (.providerInterface interface.frame.qualifiedName)
    note l s (.providerImplementer provider.frame.qualifiedName)
    match ← check h l s.suppressName (lastPart s.annotName) s.verify e provider.token interface
        (some annot) with
    | .reject =>
      report l (.notImplemented provider.frame.qualifiedName interface.frame.qualifiedName) (some e)
        (some annot)
    | _ =>
      let interfaceName ← orBroken interface.binaryName
      let providerName ← orBroken provider.binaryName
      modify (·.addProvider interfaceName providerName)
    collectInterfaces h l s e provider annot rest

/-- Records what a declaration provides. Only classes that declare a type provide anything. -/
def collectElement (h : Host τ σ) (l : Listener τ σ) (s : Settings) (e : Element τ) : Step τ σ Unit := do
  if (← orBroken e.decl.kind) ≠ .concrete then return
  match e.typeRef?, findAnnot e.annots s.annotName with
  | some provider, some annot =>
    match annot.interfaces? with
    | none =>
      report l (.malformed ⟨annot.type, valueElement⟩) (some e) (some annot)
    | some [] => report l .noInterfaces (some e) (some annot)
    | some interfaces => collectInterfaces h l s e provider annot interfaces
  | _, _ => pure ()

def collectElements (h : Host τ σ) (l : Listener τ σ) (s : Settings) : List (Element τ) → Step τ σ Unit
  | [] => pure ()
  | e :: rest => do
    collectElement h l s e
    collectElements h l s rest

/-- Records what declarations provide. If the host fails, the rest of them is left out. -/
def collect (h : Host τ σ) (l : Listener τ σ) (s : Settings) (elements : List (Element τ)) :
    Step τ σ (Option IllegalCall) := do
  let r ← get
  if r.phase = .collecting then
    guarded l (collectElements h l s elements)
    return none
  else return some ⟨.collect, r.phase⟩

/-- The names that a reading gives. A file that cannot be read lists none. -/
def Reading.names : Reading → NameSet
  | .content data => (readNames data).getD ∅
  | _ => ∅

def Reading.diagnostic (path : Bytes) : Reading → Diagnostic
  | .absent => .absent path
  | .notOpened cause => .notOpened path cause
  | .notRead cause => .unreadable path { action := "read", cause }
  | .content data =>
    match readNames data with
    | none => .unreadable path .notText
    | some names => .existing names.toList

/-- The names that the service file at a path lists. What keeps a file from being read is a note,
unless the file was opened; then it is a warning. -/
def readExisting (h : Host τ σ) (l : Listener τ σ) (s : Settings) (path : Bytes) : Step τ σ NameSet := do
  match ← callHost (h.read path) with
  | .error cause =>
    modify (·.record (.read path none))
    throw (.broken cause)
  | .ok reading =>
    modify (·.record (.read path (some reading)))
    tell l s (reading.diagnostic path)
    return reading.names

def writeService (h : Host τ σ) (l : Listener τ σ) (path : Bytes) (names : List Bytes) : Step τ σ Unit := do
  let failure ← callHost (h.write path (writeNames names))
  modify (·.record (.wrote path failure))
  match failure with
  | none => say l (.loggedWrite path names.length)
  | some ⟨stage, .error cause⟩ => report l (.notWritten path (stage.message cause)) none none
  | some ⟨_, .broken cause⟩ => throw (.broken cause)

/-- Merges the providers of an interface into its service file. A file that lists them all is left as
it is. -/
def emitRow (h : Host τ σ) (l : Listener τ σ) (s : Settings) (row : Bytes × List Bytes) : Step τ σ Unit := do
  let path := servicePath row.1
  note l s (.workingOn path)
  let existing ← readExisting h l s path
  if existing.containsAll row.2 then
    note l s (.upToDate path)
  else
    let names := (row.2.foldl NameSet.insert existing).toList
    note l s (.newContent names)
    writeService h l path names

def emitRows (h : Host τ σ) (l : Listener τ σ) (s : Settings) : List (Bytes × List Bytes) → Step τ σ Unit
  | [] => pure ()
  | row :: rest => do
    emitRow h l s row
    emitRows h l s rest

/-- Writes the service files of all interfaces. This ends the collecting for good, however it goes. -/
def emit (h : Host τ σ) (l : Listener τ σ) (s : Settings) : Step τ σ (Option IllegalCall) := do
  let r ← get
  if r.phase = .collecting then
    modify (·.setPhase .emitting)
    let outcome ← ExceptT.lift (guarded l (emitRows h l s r.index.rows)).run
    modify (·.setPhase .done)
    liftM outcome
    return none
  else return some ⟨.emit, r.phase⟩

/-- A round of a host. A host may break down when asked whether the round is the last one, or for the
declarations that carry an annotation. -/
structure Round (τ : Type) where
  isLast : Except Bytes Bool
  annotated : Bytes → Except Bytes (List (Element τ))

def Round.of (isLast : Except Bytes Bool) (elements : List (Element τ)) : Round τ where
  isLast
  annotated type := .ok (elements.filter (·.isAnnotatedWith type))

/-- Goes on after a call, unless it was refused. -/
def allowed : Option IllegalCall → Step τ σ Unit
  | none => pure ()
  | some i => throw (.error i.message)

def takeRound (h : Host τ σ) (l : Listener τ σ) (s : Settings) (round : Round τ) : Step τ σ Unit := do
  if ← orBroken round.isLast then allowed (← emit h l s)
  else
    note l s (.round s.annotName)
    allowed (← collect h l s (← orBroken (round.annotated s.annotName)))

/-- Handles a round. Whatever goes wrong is reported. -/
def processRound (h : Host τ σ) (l : Listener τ σ) (s : Settings) (round : Round τ) : Step τ σ Unit :=
  guarded l (takeRound h l s round)

/-- What a host may ask of a registrar. -/
inductive Request (τ : Type)
  | process (round : Round τ)
  | collect (elements : List (Element τ))
  | emit

inductive Reply
  /-- The annotation of the round is taken care of. -/
  | claimed
  | accepted
  | refused (i : IllegalCall)
  /-- The request breaks off: the host broke down over the report of a failure. -/
  | brokenOff (f : Failure)
  deriving DecidableEq, Repr

def Reply.ofCall : Option IllegalCall → Reply
  | none => accepted
  | some i => refused i

/-- Handles a request. A round is claimed, whatever goes wrong in it. -/
def handle (h : Host τ σ) (l : Listener τ σ) (s : Settings) : Request τ → Step τ σ Reply
  | .process round => do
    processRound h l s round
    return .claimed
  | .collect elements => return .ofCall (← Registry.collect h l s elements)
  | .emit => return .ofCall (← Registry.emit h l s)

/-- The run after a request. A request that breaks off leaves behind what it did. -/
def answer (h : Host τ σ) (l : Listener τ σ) (s : Settings) (r : Run τ σ) (q : Request τ) : Run τ σ :=
  ((handle h l s q).run r).2

def reply (h : Host τ σ) (l : Listener τ σ) (s : Settings) (r : Run τ σ) (q : Request τ) : Reply :=
  match ((handle h l s q).run r).1 with
  | .ok reply => reply
  | .error f => .brokenOff f

def answerAll (h : Host τ σ) (l : Listener τ σ) (s : Settings) (requests : List (Request τ)) (r : Run τ σ) :
    Run τ σ :=
  requests.foldl (answer h l s) r

end ServiceAnnotations.Registry
