import ServiceAnnotations.Text.ByteMap

/-! # Settings

Settings come from a file; arguments of a call take precedence over them. -/
namespace ServiceAnnotations

/-- The settings of a call. Lists and options that were never given are told from empty ones. -/
structure Settings where
  outputDir : Bytes := []
  includeTests : Bool := false
  packages : Option (List Bytes) := none
  processors : Option (List Bytes) := none
  options : Option (ByteMap Bytes) := none

namespace Settings

/-- Settings that take precedence over others. Empty lists and options change nothing. -/
structure Overrides where
  outputDir : Option Bytes := none
  includeTests : Option Bool := none
  packages : List Bytes := []
  processors : List Bytes := []
  /-- Options are taken over one by one. -/
  options : ByteMap Bytes := ∅

def apply (s : Settings) (o : Overrides) : Settings where
  outputDir := o.outputDir.getD s.outputDir
  includeTests := o.includeTests.getD s.includeTests
  packages := if o.packages.isEmpty then s.packages else some o.packages
  processors := if o.processors.isEmpty then s.processors else some o.processors
  options :=
    if o.options.entries.isEmpty then s.options
    else some (o.options.entries.foldl (fun m e => m.insert e.1 e.2) (s.options.getD ∅))

def optionNames (s : Settings) : List Bytes := (s.options.map ByteMap.keys).getD []

end Settings
end ServiceAnnotations
