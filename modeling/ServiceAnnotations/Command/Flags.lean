import ServiceAnnotations.Processing.Plugins
import ServiceAnnotations.Text.Blank
import ServiceAnnotations.Text.ByteMap

/-! # Arguments of a call

Flags start with one or two dashes, and come before all other arguments. -/
namespace ServiceAnnotations.Command
open Text

/-- The name and the value of an option; without an equals sign the value is empty. -/
def cutOption (arg : Bytes) : Bytes × Bytes :=
  let name := arg.takeWhile (· != 0x3d)
  (name, arg.drop (name.length + 1))

structure NamelessOption where
  arg : Bytes
  deriving DecidableEq, Repr

def NamelessOption.message (e : NamelessOption) : String :=
  "option " ++ Quoted.bytes e.arg ++ " has no name"

def setOption (options : ByteMap Bytes) (arg : Bytes) : Except NamelessOption (ByteMap Bytes) :=
  match cutOption arg with
  | ([], _) => .error ⟨arg⟩
  | (name, value) => .ok (options.insert name value)

def optionsText (options : ByteMap Bytes) : Bytes :=
  Bytes.join (Bytes.ofString ",") (options.entries.map fun (name, value) =>
    if value = [] then name else name ++ Bytes.ofString "=" ++ value)

/-- Takes options that are written together with their flag apart from it. -/
def expandArgs : List Bytes → List Bytes
  | [] => []
  | arg :: rest =>
    if arg = Bytes.ofString "--" then arg :: rest
    else match arg with
      | 0x2d :: 0x41 :: c :: cs =>
        if c = 0x3d then arg :: expandArgs rest else Bytes.ofString "-A" :: (c :: cs) :: expandArgs rest
      | _ => arg :: expandArgs rest

/-- The items of a list with commas between them, without blanks around them and without empty ones. -/
def splitList (list : Bytes) : List Bytes :=
  ((Bytes.splitAt 0x2c list).map trimBytes).filter (· ≠ [])

inductive Flag | option | config | includeTests | logFormat | logLevel | outputDir | processors
  deriving DecidableEq, Repr

namespace Flag

def all : List Flag := [option, config, includeTests, logFormat, logLevel, outputDir, processors]

def name : Flag → String
  | option => "A"
  | config => "config"
  | includeTests => "include_tests"
  | logFormat => "log-format"
  | logLevel => "log-level"
  | outputDir => "output_dir"
  | processors => "processors"

/-- What the help text calls the value of a flag; a switch has none. -/
def valueName : Flag → Option String
  | option => some "value"
  | includeTests => none
  | _ => some "string"

def default : Flag → String
  | logFormat => "text"
  | logLevel => "warn"
  | _ => ""

def help : Flag → String
  | option =>
    "Processor option, as key or key=value. May be repeated. Recognized: verify, debug, policy."
  | config => "Path to an HCL config file. Defaults to autoserv.hcl if it exists."
  | includeTests => "Whether to process test files."
  | logFormat => "Log output format. Options: 'text' or 'json'."
  | logLevel => "Set the logging level. Options: 'debug', 'info', 'warn', 'error'."
  | outputDir =>
    "Root directory for META-INF/services registry files. Defaults to the current directory."
  | processors =>
    "Comma-separated names of the processors to run. Defaults to all registered processors."

def usage (f : Flag) : String :=
  "  -" ++ f.name ++ ((f.valueName.map (" " ++ ·)).getD "") ++ "\n    \t" ++ f.help ++
    (if f.default = "" then "" else " (default " ++ Quoted.string f.default ++ ")") ++ "\n"

end Flag

def usageText : Bytes :=
  Bytes.ofString ("\naptserv - runs annotation processors over Go packages.\n\n" ++
    "Usage:\n  aptserv [options] [PACKAGE ...]\n\n" ++
    "Arguments:\n  PACKAGE\n" ++
    "    Package patterns to process, as understood by the go command.\n" ++
    "    If none are given, the config file's packages are used.\n\n" ++
    "Registered processors: ") ++
    Bytes.join (Bytes.ofString ", ") Processing.builtin.names ++
    Bytes.ofString ("\n\nOptions:\n" ++ String.join (Flag.all.map Flag.usage))

/-- What the arguments of a call ask for. Flags that were not given are told from others. -/
structure Request where
  outputDir : Option Bytes := none
  includeTests : Option Bool := none
  config : Bytes := []
  processors : Option Bytes := none
  logFormat : Bytes := Flag.logFormat.default
  logLevel : Bytes := Flag.logLevel.default
  options : ByteMap Bytes := ∅
  /-- All arguments after the flags. -/
  rest : List Bytes := []

inductive FlagError
  | badSyntax (arg : Bytes)
  | undefined (name : Bytes)
  | noValue (flag : Flag)
  | notBool (flag : Flag) (value : Bytes)
  | badValue (flag : Flag) (cause : NamelessOption)
  deriving DecidableEq, Repr

def FlagError.message : FlagError → Bytes
  | badSyntax arg => Bytes.ofString "bad flag syntax: " ++ arg
  | undefined name => Bytes.ofString "flag provided but not defined: -" ++ name
  | noValue flag => Bytes.ofString ("flag needs an argument: -" ++ flag.name)
  | notBool flag value => Bytes.ofString
    ("invalid boolean value " ++ Quoted.bytes value ++ " for -" ++ flag.name ++ ": parse error")
  | badValue flag cause => Bytes.ofString
    ("invalid value " ++ Quoted.bytes cause.arg ++ " for flag -" ++ flag.name ++ ": " ++ cause.message)

inductive Parsed
  | request (r : Request)
  | help
  | refused (e : FlagError)

def boolOf? (b : Bytes) : Option Bool :=
  if b ∈ ["1", "t", "T", "TRUE", "true", "True"].map Bytes.ofString then some true
  else if b ∈ ["0", "f", "F", "FALSE", "false", "False"].map Bytes.ofString then some false
  else none

def Request.set (r : Request) (f : Flag) (value : Bytes) : Except FlagError Request :=
  match f with
  | .outputDir => .ok { r with outputDir := some value }
  | .config => .ok { r with config := value }
  | .processors => .ok { r with processors := some value }
  | .logFormat => .ok { r with logFormat := value }
  | .logLevel => .ok { r with logLevel := value }
  | .option => ((setOption r.options value).map fun options => { r with options }).mapError (.badValue f)
  | .includeTests =>
    match boolOf? value with
    | some b => .ok { r with includeTests := some b }
    | none => .error (.notBool f value)

/-- The name of a flag, without its dashes and its value; none for an argument that is no flag. -/
def flagName? : Bytes → Option Bytes
  | 0x2d :: 0x2d :: c :: cs => some (c :: cs)
  | 0x2d :: c :: cs => some (c :: cs)
  | _ => none

def parseFlags : Request → List Bytes → Parsed
  | r, [] => .request r
  | r, arg :: rest =>
    if arg = Bytes.ofString "--" then .request { r with rest }
    else match flagName? arg with
      | none => .request { r with rest := arg :: rest }
      | some spec =>
        if spec.head? = some 0x2d || spec.head? = some 0x3d then .refused (.badSyntax arg)
        else
          let name := spec.takeWhile (· != 0x3d)
          let value := if name.length < spec.length then some (spec.drop (name.length + 1)) else none
          match Flag.all.find? fun f => Bytes.ofString f.name = name with
          | none =>
            if name = Bytes.ofString "help" || name = Bytes.ofString "h" then .help
            else .refused (.undefined name)
          | some f =>
            match value, f.valueName, rest with
            | some value, _, rest =>
              match r.set f value with
              | .ok r => parseFlags r rest
              | .error e => .refused e
            | none, none, rest =>
              match r.set f "true" with
              | .ok r => parseFlags r rest
              | .error e => .refused e
            | none, some _, [] => .refused (.noValue f)
            | none, some _, value :: rest =>
              match r.set f value with
              | .ok r => parseFlags r rest
              | .error e => .refused e

end ServiceAnnotations.Command
