import ServiceAnnotations.Text.Bytes

/-! # Places in source files -/
namespace ServiceAnnotations.Source

/-- A place in a source file. Line and column count from 1, column and offset count bytes. A line that
is not positive stands for no place at all. -/
structure Place where
  file : Bytes := []
  line : Int := 0
  column : Int := 0
  offset : Int := 0
  deriving DecidableEq, Repr, Inhabited

def Place.isKnown (p : Place) : Bool := 0 < p.line

/-- A place as diagnostics show it; parts that are not known are left out. -/
def Place.text (p : Place) : Bytes :=
  let spot :=
    if p.isKnown then
      Bytes.ofString (toString p.line ++ if p.column = 0 then "" else ":" ++ toString p.column)
    else []
  match p.file, spot with
  | [], [] => "-"
  | [], spot => spot
  | file, [] => file
  | file, spot => file ++ Bytes.ofString ":" ++ spot

structure Located (ε : Type) where
  pos : Place
  error : ε
  deriving Repr

/-- The text of a located error: file, line, column and the text of the error, with nothing left out. -/
def locatedText (pos : Place) (text : Bytes) : Bytes :=
  pos.file ++ Bytes.ofString (":" ++ toString pos.line ++ ":" ++ toString pos.column ++ ": ") ++ text

end ServiceAnnotations.Source
