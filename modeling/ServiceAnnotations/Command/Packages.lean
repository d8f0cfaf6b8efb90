import ServiceAnnotations.Types.Load

/-! # Packages from a listing

Packages come as a listing tells them: with their ids, files and imports, and with what went wrong. -/
namespace ServiceAnnotations.Command
open Files ServiceAnnotations.Types

structure ListingError where
  pos : Bytes
  message : Bytes
  deriving DecidableEq, Repr

def ListingError.text (e : ListingError) : Bytes :=
  (if e.pos = [] then Bytes.ofString "-" else e.pos) ++ Bytes.ofString ": " ++ e.message

/-- A package as listed. -/
structure ListedPackage where
  id : String
  path : String
  name : String
  files : List Bytes
  /-- Ids of imported packages, by path. -/
  imports : List (String × String) := []
  errors : List ListingError := []
  /-- Whether the package is listed only because others import it. -/
  isDependency : Bool := false

def occursIn (part : List Char) : List Char → Bool
  | [] => part.isEmpty
  | c :: cs => part.isPrefixOf (c :: cs) || occursIn part cs

namespace ListedPackage

/-- Whether a package has test files on top of those of the package with the same path. -/
def isVariant (p : ListedPackage) : Bool := occursIn " [".toList p.id.toList

def isTestMain (p : ListedPackage) : Bool := ".test".toList.isSuffixOf p.id.toList

def load (t : Tree) (p : ListedPackage) : Package where
  id := p.id
  path := p.path
  name := p.name
  dir := match p.files with
    | [] => []
    | file :: _ => Path.dir file
  files := p.files.filterMap fun file => do Source.File.read? file (← t.files.get? (t.locate file))
  imports := p.imports

end ListedPackage

def ListedPackage.ofLine? (t : Tree) (line : Bytes) : Option ListedPackage :=
  match (Bytes.splitAt 0x20 line).filter (· ≠ []) with
  | [] => none
  | path :: files =>
    let path := Text.Utf8.toText path
    let name := ((packageOfFiles? t path path files).map Package.name).getD (lastElement path)
    some { id := path, path, name, files }

def programOf (t : Tree) (listed : List ListedPackage) : Program :=
  Program.settle { packages := listed.map (·.load t) }

/-- The listed packages to process. Packages that are only there to run tests are left out, and so are
those of which there is a variant with test files. -/
def selected (listed : List ListedPackage) : List ListedPackage :=
  let roots := listed.filter (!·.isDependency)
  let hasVariant (path : String) : Bool := roots.any fun p => p.isVariant && p.path = path
  roots.filter fun p => !p.isTestMain && (p.isVariant || !hasVariant p.path)

def loadListed (t : Tree) (listed : List ListedPackage) : Except Bytes (List Package) :=
  (selected listed).mapM fun p => match p.errors with
    | [] => .ok (p.load t)
    | e :: _ => .error (Bytes.ofString ("could not load " ++ p.path ++ ": ") ++ e.text)

end ServiceAnnotations.Command
