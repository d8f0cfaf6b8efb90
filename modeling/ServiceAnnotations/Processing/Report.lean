import ServiceAnnotations.Registry.Diagnostic

/-! # Diagnostics as they are printed -/
namespace ServiceAnnotations.Processing
open Registry Source

/-- A diagnostic with its severity and the place it is about, if that is known. -/
structure Report where
  severity : Severity
  pos : Place
  text : Bytes
  deriving DecidableEq, Repr

namespace Report

def line (r : Report) : Bytes :=
  (if r.pos.isKnown then r.pos.text ++ Bytes.ofString ": " else []) ++
    Bytes.ofString (r.severity.text ++ ": ") ++ r.text ++ Bytes.ofString "\n"

end Report

def countOf (severity : Severity) (reports : List Report) : Nat :=
  (reports.filter (·.severity = severity)).length

/-- The place of a diagnostic: that of the annotation it is about, or else that of the element. -/
def placeOf (annot element : Option Place) : Place :=
  match annot.filter Place.isKnown with
  | some pos => pos
  | none => element.getD {}

def Report.ofMessage {τ : Type} (m : Message τ) : Report where
  severity := m.diagnostic.severity
  pos := placeOf (m.annot.bind Annot.pos) (m.element.bind Element.pos)
  text := m.diagnostic.text

def errorsReported (count : Int) : String :=
  if count = 1 then "1 error reported" else toString count ++ " errors reported"

end ServiceAnnotations.Processing
