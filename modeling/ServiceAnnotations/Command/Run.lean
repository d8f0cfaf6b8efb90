import ServiceAnnotations.Command.Flags
import ServiceAnnotations.Command.Log
import ServiceAnnotations.Command.Packages
import ServiceAnnotations.Processing.Run
import ServiceAnnotations.Settings.Load
import ServiceAnnotations.Text.Case

/-! # The command -/
namespace ServiceAnnotations.Command
open Files Processing Text

inductive Ending
  | success
  /-- The call is refused, or errors were reported. -/
  | exit (code : Nat) (message : Bytes)
  /-- Something else went wrong. -/
  | failed (message : Bytes)
  deriving DecidableEq, Repr

def Ending.code : Ending → Nat
  | success => 0
  | exit code _ => code
  | failed _ => 1

def Ending.message? : Ending → Option Bytes
  | success => none
  | exit _ message | failed message => some message

structure Result where
  output : Bytes := []
  tree : Tree
  ending : Ending

def lowered (b : Bytes) : String := String.ofList ((Utf8.glyphs b).map fun g => toLower g.shown)

def logFormat? (name : Bytes) : Option LogFormat :=
  match lowered name with
  | "text" => some .plain
  | "json" => some .json
  | _ => none

def logLevel? (name : Bytes) : Option LogLevel :=
  match lowered name with
  | "debug" => some .debug
  | "info" => some .info
  | "warn" => some .warn
  | "error" => some .error
  | _ => none

def logSettings (r : Request) : Except Bytes LogSettings :=
  match logFormat? r.logFormat, logLevel? r.logLevel with
  | none, _ => .error "invalid log-format: must be 'text' or 'json'"
  | _, none => .error "invalid log-level: must be 'debug', 'info', 'warn', or 'error'"
  | some format, some least => .ok ⟨format, least⟩

def overridesOf (r : Request) : Settings.Overrides where
  outputDir := r.outputDir
  includeTests := r.includeTests
  packages := r.rest
  processors := (r.processors.map splitList).getD []
  options := r.options

def openingRecord (s : Settings) : LogRecord where
  level := .info
  message := "processing packages"
  values :=
    let list (names : Option (List Bytes)) : LogValue := (names.map .names).getD .noNames
    [("packages", list s.packages), ("output_dir", .text s.outputDir),
     ("processors", list s.processors), ("options", .names s.optionNames)]

/-- What is left to do once the arguments and settings of a call are read. -/
structure Job where
  log : LogSettings
  settings : Settings
  kinds : List ProcessorKind

def Job.run (j : Job) (t : Tree) (listing : Except Bytes (List ListedPackage)) : Result :=
  let output := recordText j.log (openingRecord j.settings)
  match listing.bind fun listed => (loadListed t listed).map ((listed, ·)) with
  | .error message => { output, tree := t, ending := .failed message }
  | .ok (listed, packages) =>
    let env : Environment :=
      { options := j.settings.options.getD ∅, outputDir := j.settings.outputDir, sources := .tree
        program := programOf t listed }
    let (outcome, _, session) :=
      runProcessors env (j.kinds.map .builtin) packages ({ tree := t, extra := () } : Session Unit)
    { output := output ++ session.entries.flatMap (entryText j.log)
      tree := session.tree
      ending := match outcome with
        | .ok => .success
        | .errorsReported n => .exit 1 (errorsReported n)
        | .stopped (.failed cause) => .failed cause
        | .stopped .broken => .failed "panic" }

/-- The job that a request asks for, or what comes of a call without one. -/
def planRequest (t : Tree) (r : Request) : Except Result Job := do
  let refused (message : Bytes) : Result := { tree := t, ending := .exit 2 message }
  let log ← (logSettings r).mapError refused
  let found ← (Settings.find t r.config).mapError fun e => refused e.message
  let settings := found.apply (overridesOf r)
  if (settings.packages.getD []).isEmpty then
    throw { refused "must supply at least one package pattern" with output := usageText }
  let kinds ← (builtin.create (settings.processors.getD [])).mapError refused
  return { log, settings, kinds }

/-- The job that the arguments of a call ask for, or what comes of a call without one. -/
def plan (t : Tree) (args : List Bytes) : Except Result Job :=
  match parseFlags {} (expandArgs args) with
  | .help => .error { output := usageText, tree := t, ending := .success }
  | .refused e =>
    .error { output := e.message ++ Bytes.ofString "\n" ++ usageText, tree := t,
             ending := .exit 2 e.message }
  | .request r => planRequest t r

/-- Carries out a call with arguments, in a tree of files, with the listing of the packages that the
patterns stand for. -/
def run (t : Tree) (args : List Bytes) (listing : Except Bytes (List ListedPackage)) : Result :=
  match plan t args with
  | .error result => result
  | .ok job => job.run t listing

end ServiceAnnotations.Command
