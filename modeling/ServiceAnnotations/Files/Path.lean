import ServiceAnnotations.Text.Bytes

/-! # Paths

Parts of a path are divided by slashes. -/
namespace ServiceAnnotations.Files.Path

def slash : UInt8 := 0x2f

def isRooted (path : Bytes) : Bool := path.head? = some slash

def here : Bytes := "."

def up : Bytes := ".."

/-- Goes one part further, where `parts` are the parts so far, last one first. -/
def step (rooted : Bool) (parts : List Bytes) (part : Bytes) : List Bytes :=
  if part = [] || part = here then parts
  else if part = up then
    match parts with
    | [] => if rooted then [] else [up]
    | last :: before => if last = up then up :: parts else before
  else part :: parts

def clean (path : Bytes) : Bytes :=
  let rooted := isRooted path
  let parts := ((Bytes.splitAt slash path).foldl (step rooted) []).reverse
  match rooted, Bytes.join [slash] parts with
  | true, rest => slash :: rest
  | false, [] => here
  | false, rest => rest

def join (root path : Bytes) : Bytes :=
  match root, path with
  | [], [] => []
  | [], path => clean path
  | root, path => clean (root ++ [slash] ++ path)

def lastPart (path : Bytes) : Bytes := (path.reverse.takeWhile (· != slash)).reverse

def base (path : Bytes) : Bytes :=
  match path with
  | [] => here
  | path =>
    match (path.reverse.dropWhile (· == slash)).reverse with
    | [] => [slash]
    | path => lastPart path

def dir (path : Bytes) : Bytes := clean (path.reverse.dropWhile (· != slash)).reverse

/-- The directories above a clean path, outermost first. -/
def parents (path : Bytes) : List Bytes :=
  let parts := Bytes.splitAt slash path
  ((List.range parts.length).map fun n => Bytes.join [slash] (parts.take n)).filter (· ≠ [])

end ServiceAnnotations.Files.Path
