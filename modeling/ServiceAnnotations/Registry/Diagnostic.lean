import ServiceAnnotations.Registry.Element

/-! # What is reported while providers are collected and service files written -/
namespace ServiceAnnotations.Registry

/-- How much a diagnostic matters. Hosts may use severities of their own. -/
inductive Severity
  | note
  | warning
  | error
  | other (code : Int)
  deriving DecidableEq, Repr

def Severity.text : Severity → String
  | note => "note"
  | warning => "warning"
  | error => "error"
  | other code => unknownCode code

def Severity.ofCode : Int → Severity
  | 0 => note
  | 1 => warning
  | 2 => error
  | code => other code

structure FileError where
  action : Bytes
  path : Bytes := []
  cause : Bytes
  deriving DecidableEq, Repr

def FileError.message (e : FileError) : Bytes :=
  Bytes.ofString "registry " ++ e.action ++
    (if e.path = [] then [] else Bytes.ofString " " ++ e.path) ++ Bytes.ofString ": " ++ e.cause

def FileError.notText : FileError where
  action := "decode"
  cause := "content is not valid UTF-8"

structure Malformed where
  type : Bytes
  element : Bytes
  deriving DecidableEq, Repr

def Malformed.message (m : Malformed) : Bytes :=
  m.type ++ Bytes.ofString " does not define an element " ++ m.element

/-- How a host fails: it answers with an error, or breaks down in the middle of a call. -/
inductive Failure
  | error (cause : Bytes)
  | broken (cause : Bytes)
  deriving DecidableEq, Repr

def Failure.message : Failure → Bytes
  | error cause => cause
  | broken cause => Bytes.ofString "panic: " ++ cause

def bracketed (names : List Bytes) : Bytes :=
  Bytes.ofString "[" ++ Bytes.join (Bytes.ofString " ") names ++ Bytes.ofString "]"

inductive Diagnostic
  | round (type : Bytes)
  | providerInterface (name : Bytes)
  | providerImplementer (name : Bytes)
  | workingOn (path : Bytes)
  | absent (path : Bytes)
  | notOpened (path cause : Bytes)
  | existing (names : List Bytes)
  | upToDate (path : Bytes)
  | newContent (names : List Bytes)
  | rawType (interface annotName : Bytes)
  | unreadable (path : Bytes) (cause : FileError)
  | malformed (cause : Malformed)
  | noInterfaces
  | notImplemented (provider interface : Bytes)
  | notWritten (path cause : Bytes)
  /-- A failure that ends a call. The trace of calls that the text of a breakdown ends with is left out. -/
  | fatal (cause : Bytes)
  deriving DecidableEq, Repr

namespace Diagnostic

def severity : Diagnostic → Severity
  | round _ | providerInterface _ | providerImplementer _ | workingOn _ | absent _ | notOpened _ _
  | existing _ | upToDate _ | newContent _ => .note
  | rawType _ _ | unreadable _ _ => .warning
  | malformed _ | noInterfaces | notImplemented _ _ | notWritten _ _ | fatal _ => .error

def text : Diagnostic → Bytes
  | round type => Bytes.ofString "processing round for " ++ type
  | providerInterface name => Bytes.ofString "provider interface: " ++ name
  | providerImplementer name => Bytes.ofString "provider implementer: " ++ name
  | workingOn path => Bytes.ofString "Working on resource file: " ++ path
  | absent path => Bytes.ofString "Resource file does not exist: " ++ path
  | notOpened path cause =>
    Bytes.ofString "Resource file " ++ path ++ Bytes.ofString " could not be opened: " ++ cause
  | existing names => Bytes.ofString "Existing service entries: " ++ bracketed names
  | upToDate path => Bytes.ofString "All services already exist in resource file " ++ path
  | newContent names => Bytes.ofString "New service file contents: " ++ bracketed names
  | rawType interface annotName =>
    Bytes.ofString "Service provider " ++ interface ++
      Bytes.ofString " is generic, so it can't be named exactly by @" ++ annotName ++
      Bytes.ofString ". If this is OK, add @SuppressWarnings(\"rawtypes\")."
  | unreadable path cause =>
    Bytes.ofString "Ignoring unreadable resource file " ++ path ++ Bytes.ofString ": " ++ cause.message
  | malformed cause => Bytes.ofString "FatalError: " ++ cause.message
  | noInterfaces => "No service interfaces provided for element!"
  | notImplemented provider interface =>
    Bytes.ofString "ServiceProviders must implement their service provider interface. " ++ provider ++
      Bytes.ofString " does not implement " ++ interface
  | notWritten path cause =>
    Bytes.ofString "FatalError: Unable to create " ++ path ++ Bytes.ofString ", " ++ cause
  | fatal cause => Bytes.ofString "FatalError: " ++ cause

end Diagnostic

/-- A diagnostic about a declaration and an annotation on it, if it is about any. -/
structure Message (τ : Type) where
  diagnostic : Diagnostic
  element : Option (Element τ)
  annot : Option (Annot τ)

end ServiceAnnotations.Registry
