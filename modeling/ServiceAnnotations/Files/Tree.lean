import ServiceAnnotations.Files.Path
import ServiceAnnotations.Registry.Host
import ServiceAnnotations.Text.ByteMap

/-! # A tree of files

Files have paths relative to the directory where the program works. Every directory above a file is
there. -/
namespace ServiceAnnotations.Files

/-- The files below a directory. -/
structure Tree where
  /-- The name of the directory itself. -/
  root : Bytes := []
  files : ByteMap Bytes := ∅
  /-- Directories that are there even without files. -/
  dirs : NameSet := ∅

namespace Tree

def locate (t : Tree) (path : Bytes) : Bytes :=
  let path := Path.clean path
  if t.root = [] then path
  else if path = t.root then Path.here
  else if (t.root ++ [Path.slash]).isPrefixOf path then path.drop (t.root.length + 1)
  else path

def isFile (t : Tree) (path : Bytes) : Bool := t.files.contains (t.locate path)

def isDir (t : Tree) (path : Bytes) : Bool :=
  let path := t.locate path
  path = Path.here || t.dirs.contains path ||
    (t.files.keys ++ t.dirs.keys).any ((path ++ [Path.slash]).isPrefixOf ·)

inductive PathFault | absent | notDirectory | isDirectory | nameTooLong | invalid
  deriving DecidableEq, Repr

def PathFault.text : PathFault → Bytes
  | absent => "no such file or directory"
  | notDirectory => "not a directory"
  | isDirectory => "is a directory"
  | nameTooLong => "file name too long"
  | invalid => "invalid argument"

def failure (action path : Bytes) (fault : PathFault) : Bytes :=
  action ++ Bytes.ofString " " ++ path ++ Bytes.ofString ": " ++ fault.text

def maxName : Nat := 255

def maxPath : Nat := 4095

/-- Follows the parts of a path from a directory on. Every part but the last has to be a directory, even
if the path leads back out of it. -/
def follow (t : Tree) : (dir : Bytes) → List Bytes → Except PathFault Bytes
  | dir, [] => .ok dir
  | dir, part :: rest => do
    if maxName < part.length then throw .nameTooLong
    let next := Path.join dir part
    if !rest.isEmpty && !t.isDir next then
      throw (if t.isFile next then .notDirectory else .absent)
    t.follow next rest

/-- The clean path that a path leads to. Only the last part of it may be missing. -/
def reach (t : Tree) (path : Bytes) : Except PathFault Bytes := do
  if path.contains 0 then throw .invalid
  if path = [] then throw .absent
  if maxPath < path.length then throw .nameTooLong
  let start := t.root ++ [Path.slash]
  if t.root ≠ [] && start.isPrefixOf path then
    t.follow Path.here (Bytes.splitAt Path.slash (path.drop start.length))
  else t.follow Path.here (Bytes.splitAt Path.slash path)

def read (t : Tree) (path : Bytes) : Registry.Reading :=
  match t.reach path with
  | .error .absent => .absent
  | .error fault => .notOpened (failure "open" path fault)
  | .ok place => match t.files.get? place with
    | some content => .content content
    | none => if t.isDir place then .notRead (failure "read" path .isDirectory) else .absent

def absence (path : Bytes) : Bytes := failure "open" path .absent

def makeDirs (t : Tree) : List Bytes → Except Bytes Tree
  | [] => .ok t
  | path :: rest =>
    if t.isDir path then t.makeDirs rest
    else if t.isFile path then .error (failure "mkdir" path .notDirectory)
    else match t.reach path with
      | .error fault => .error (failure "mkdir" path fault)
      | .ok place => { t with dirs := t.dirs.insert place }.makeDirs rest

def makeDir (t : Tree) (path : Bytes) : Except Bytes Tree := t.makeDirs (Path.parents path ++ [path])

/-- Makes an empty file, or empties a file, and makes the directories above it. -/
def create (t : Tree) (path : Bytes) : Except Bytes Tree := do
  let dir := Path.dir path
  let t ← (t.makeDir dir).mapError fun cause =>
    Bytes.ofString "could not create output directory " ++ dir ++ Bytes.ofString ": " ++ cause
  let place ← (t.reach path).mapError (failure "open" path)
  if t.isDir place then throw (failure "open" path .isDirectory)
  return { t with files := t.files.insert place [] }

def write (t : Tree) (path content : Bytes) : Tree :=
  { t with files := t.files.insert (t.locate path) content }

/-- Without a file, or a directory and all below it. The directory around it stays. -/
def remove (t : Tree) (path : Bytes) : Tree :=
  let path := t.locate path
  let stays (other : Bytes) : Bool := other ≠ path && !(path ++ [Path.slash]).isPrefixOf other
  { t with
    files := t.files.filterKeys stays
    dirs := NameSet.insert (t.dirs.filterKeys stays) (Path.dir path) }

def changedSince (t before : Tree) : List (Bytes × Bytes) :=
  t.files.entries.filter fun (path, content) => before.files.get? path ≠ some content

end Tree

/-- The place of a file below an output directory. Without an output directory the path is kept. -/
def outputPath (root path : Bytes) : Bytes := if root = [] then path else Path.join root path

end ServiceAnnotations.Files
