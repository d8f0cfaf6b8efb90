import ServiceAnnotations.Files.Tree
import ServiceAnnotations.Source.Parser
import ServiceAnnotations.Types.Settle

/-! # Packages in a tree of files

The package with an import path consists of the Go files in the directory of that name. -/
namespace ServiceAnnotations.Types
open Files Source

/-- The paths of the Go files in a directory, in ascending order. -/
def sourceFilesIn (t : Tree) (dir : Bytes) : List Bytes :=
  t.files.keys.filter fun path => Path.dir path = dir && (Bytes.ofString ".go").isSuffixOf path

/-- The package whose files have the given names; none if there are no files. -/
def packageOfFiles? (t : Tree) (id path : String) (names : List Bytes) : Option Package :=
  let files := names.filterMap fun name => do File.read? name (← t.files.get? (t.locate name))
  match files with
  | [] => none
  | f :: _ => some { id, path, name := f.packageName, dir := Path.dir f.path, files }

def packageAt? (t : Tree) (path : String) : Option Package :=
  packageOfFiles? t path path (sourceFilesIn t path)

/-- The paths that the files of a package import. -/
def Package.importPaths (pkg : Package) : List String :=
  pkg.files.flatMap fun f => f.imports.map Import.path

def loadPackages (t : Tree) : Nat → List String → List Package → List Package
  | 0, _, loaded => loaded
  | fuel + 1, paths, loaded =>
    let isNew (path : String) := path ≠ "unsafe" && !loaded.any (·.path = path)
    match (paths.filter isNew).filterMap (packageAt? t) with
    | [] => loaded
    | pkg :: _ => loadPackages t fuel (paths ++ pkg.importPaths) (loaded ++ [pkg])

def Program.load (t : Tree) (paths : List String) : Program :=
  Program.settle { packages := loadPackages t (t.files.size + 1) paths [] }

end ServiceAnnotations.Types
