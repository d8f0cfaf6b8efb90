import ServiceAnnotations.Companion.File
import ServiceAnnotations.Elements.Scan
import ServiceAnnotations.Files.Tree
import ServiceAnnotations.Processing.Report

/-! # What processors work with, and what they leave behind -/
namespace ServiceAnnotations.Processing
open Elements Files Registry Source ServiceAnnotations.Types

inductive LogLevel | debug | info | warn | error
  deriving DecidableEq, Repr

inductive LogValue
  | text (b : Bytes)
  | number (n : Nat)
  | names (ns : List Bytes)
  /-- A list that was never given. -/
  | noNames
  deriving DecidableEq, Repr

structure LogRecord where
  level : LogLevel
  message : Bytes
  values : List (String × LogValue) := []
  deriving DecidableEq, Repr

/-- What a run leaves behind on its way: reports, which are also logged, and log records. -/
inductive Entry
  | report (r : Report)
  | log (r : LogRecord)
  deriving DecidableEq, Repr

def Report.record (r : Report) : LogRecord where
  level := .debug
  message := "diagnostic"
  values := [("kind", .text r.severity.text), ("pos", .text r.pos.text), ("msg", .text r.text)]

def reportsOf (entries : List Entry) : List Report :=
  entries.filterMap fun
    | .report r => some r
    | .log _ => none

inductive Sources
  /-- Beside the sources. -/
  | tree
  /-- Nowhere; each step fails if it is given a cause. -/
  | failing (create write close : Bytes)
  deriving DecidableEq, Repr

/-- What processors are given. -/
structure Environment where
  options : ByteMap Bytes
  /-- The root of service files. -/
  outputDir : Bytes
  sources : Sources
  program : Program
  writer : Companion.Writer := .standard

/-- The state of a run: the files, what it left behind, and whatever else its processors keep. -/
structure Session (σ : Type) where
  tree : Tree
  entries : List Entry := []
  extra : σ

namespace Session
variable {σ : Type}

def record (s : Session σ) (e : Entry) : Session σ := { s with entries := s.entries ++ [e] }

def report (s : Session σ) (r : Report) : Session σ := s.record (.report r)

def log (s : Session σ) (r : LogRecord) : Session σ := s.record (.log r)

end Session

/-- A round of processing: the annotated elements of a package, or the end. -/
inductive Round
  | package (pkg : Package) (found : List Found) (known : Known)
  | last

/-- Why a run stops before its end: a processor gives up, or breaks down. -/
inductive Stop
  | failed (cause : Bytes)
  | broken
  deriving DecidableEq, Repr

/-- What a call of a processor does: how it ends, what it leaves behind, and the files and whatever else
processors keep then. -/
structure Effect (σ : Type) where
  outcome : Except Stop Unit
  entries : List Entry := []
  tree : Tree
  extra : σ

def Session.apply {σ : Type} (s : Session σ) (e : Effect σ) : Session σ where
  tree := e.tree
  entries := s.entries ++ e.entries
  extra := e.extra

end ServiceAnnotations.Processing
