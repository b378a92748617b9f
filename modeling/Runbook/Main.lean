import Runbook.Cli.Command
/-!
# The program

Reads the files under the working directory and the variables the configuration looks
at, runs the command line on them, prints what the command printed, writes back every
file the command created or changed, and exits with the command's code.
-/

open Runbook Runbook.Cli

/-- The environment variables the command reads. -/
def variableNames : List String :=
  ["HOME", "STEPFLOW_LOG_LEVEL", "STEPFLOW_LOG_FORMAT", "STEPFLOW_MAX_DEPTH", "SMTP_SERVER",
    "SMTP_PORT", "SMTP_FROM", "STEPFLOW_CAPTURE_HOST", "STEPFLOW_CAPTURE_PORT"]

/-- Reads the variables the command reads. -/
def readEnvironment : IO Environment :=
  variableNames.filterMapM fun name => do
    pure ((← IO.getEnv name).map (name, ·))

/-- Adds the files under a directory's entries to a store, at paths relative to the
working directory. -/
partial def loadEntries (base : String) (entries : Array IO.FS.DirEntry) (store : FileStore) :
    IO FileStore :=
  entries.foldlM (fun store e => do
    let rel := if base.isEmpty then e.fileName else base ++ "/" ++ e.fileName
    if ← e.path.isDir then
      loadEntries rel (← e.path.readDir) (store.makeDirectories (FileStore.names rel))
    else
      match ← (IO.FS.readBinFile e.path).toBaseIO with
      | .ok bytes => pure (store.seed rel (.bytes bytes.toList))
      | .error _ => pure store) store

/-- Writes a file's bytes, creating its directory first. -/
def writeFile (path : String) (content : Content) : IO Unit := do
  match content with
  | .bytes data =>
    let dir := "/".intercalate (FileStore.names path).dropLast
    if !dir.isEmpty then IO.FS.createDirAll dir
    IO.FS.writeBinFile path (ByteArray.mk data.toArray)

/-- Runs the command line. -/
def main (args : List String) : IO UInt32 := do
  let before ← loadEntries "" (← (← IO.currentDir).readDir) FileStore.empty
  let done := runCommand {} (← readEnvironment) before args
  IO.print done.stdout
  IO.eprint done.stderr
  for (path, content) in done.files.files do
    if (before.files.lookup path) != some content then
      writeFile path content
  pure done.code.toUInt32
