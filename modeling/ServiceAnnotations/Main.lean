import ServiceAnnotations.Command.Run

/-! # The program

The packages to process are listed on standard input, one on a line: the import path and the files. -/
namespace ServiceAnnotations.Main
open Files

def readInto (t : Tree) (path : Bytes) : IO Tree := do
  try
    let content ← IO.FS.readBinFile (Text.Utf8.toText path)
    return t.write path content.toList
  catch _ => return t

/-- The lines that are left to read. -/
partial def restLines (stream : IO.FS.Stream) : IO (List Bytes) := do
  let line ← stream.getLine
  if line.isEmpty then return []
  return (Bytes.ofString line).filter (· != 0x0a) :: (← restLines stream)

def settingsFile (args : List Bytes) : Bytes :=
  match Command.parseFlags {} (Command.expandArgs args) with
  | .request r => if r.config = [] then Settings.defaultFile else r.config
  | _ => Settings.defaultFile

/-- Runs a job on the packages listed on standard input. The files that it would write are read first. -/
def runJob (job : Command.Job) (t : Tree) : IO Command.Result := do
  let lines ← restLines (← IO.getStdin)
  let t ← lines.foldlM (fun t line => ((Bytes.splitAt 0x20 line).drop 1).foldlM readInto t) t
  let listed := lines.filterMap (Command.ListedPackage.ofLine? t)
  let draft := job.run t (.ok listed)
  let full ← (draft.tree.changedSince t).foldlM (fun t (path, _) => readInto t path) t
  let result := job.run full (.ok listed)
  for (path, content) in result.tree.changedSince full do
    IO.FS.createDirAll (Text.Utf8.toText (Path.dir path))
    IO.FS.writeBinFile (Text.Utf8.toText path) ⟨content.toArray⟩
  return result

end ServiceAnnotations.Main

open ServiceAnnotations in
def main (args : List String) : IO UInt32 := do
  let args := args.map Bytes.ofString
  let t ← Main.readInto {} (Main.settingsFile args)
  let result ← match Command.plan t args with
    | .error result => pure result
    | .ok job => Main.runJob job t
  let last := (result.ending.message?.map (· ++ Bytes.ofString "\n")).getD []
  (← IO.getStderr).write ⟨(result.output ++ last).toArray⟩
  return UInt32.ofNat result.ending.code
