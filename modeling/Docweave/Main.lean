import Docweave.Command.Run

/-!
# The program

The program takes a snapshot of the current directory, runs a command line on it, shows what comes of it, and
writes the files that have changed.
-/

namespace Docweave

/-- What an entry of a directory holds, with its name. -/
partial def readEntry (entry : IO.FS.DirEntry) : IO (Text × Files.Tree) := do
  let name := entry.fileName.toList
  if ← entry.path.isDir then
    let entries ← entry.path.readDir
    return (name, .directory (← entries.toList.mapM readEntry))
  else
    return (name, .file (← IO.FS.readBinFile entry.path).toList)

/-- What the current directory holds. -/
def readCurrent : IO Files.Tree := do
  let here ← IO.currentDir
  return .directory (← (← here.readDir).toList.mapM readEntry)

/-- Write a file below the current directory. -/
def writeFile (file : Text × List UInt8) : IO Unit := do
  let path := (← IO.currentDir) / String.ofList file.1
  if let some directory := path.parent then IO.FS.createDirAll directory
  IO.FS.writeBinFile path (ByteArray.mk file.2.toArray)

/-- Show what has come of a command, and write the files that it has changed. -/
def finish (before : Files.Tree) (outcome : Command.Outcome) : IO UInt32 := do
  (Files.Tree.changedSince before outcome.files).forM writeFile
  for row in outcome.rows do IO.println (String.ofList row)
  IO.eprint (String.ofList outcome.complaint)
  if let some failure := outcome.failure then IO.eprintln (String.ofList failure.message)
  return outcome.exitCode.toUInt32

end Docweave

/-- Run a command line in the current directory. -/
def main (words : List String) : IO UInt32 := do
  let files ← Docweave.readCurrent
  Docweave.finish files (Docweave.Command.run files (words.map String.toList))
