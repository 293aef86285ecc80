import Folio.CommandLine

/-!
# The program

The program hands the words of its command line, the environment and the files that matter
to a run, and then shows what the run wrote.
-/

namespace Folio

/-- What stands at a place of the file system. -/
def look (files : FileTree) (place : Location) : IO (Option FileEntry) := do
  let path := files.locationText place
  try
    let content ← IO.FS.readBinFile path
    return some (.file content)
  catch _ =>
    try
      discard <| IO.FS.Handle.mk (path ++ "/.") .read
      return some .directory
    catch _ => return none

/-- The files that matter to a run. -/
def gather (words : List String) (environment : String) : IO FileTree := do
  let working := (FilePath.ofText (← IO.currentDir).toString).names
  let home := (FilePath.ofText ((← IO.getEnv "HOME").getD "/")).names
  let bare : FileTree := { root := "", entries := [(working, .directory)], working, home }
  let mut entries := bare.entries
  for place in CommandLine.places words environment bare do
    if let some entry ← look bare place then
      entries := entries ++ [(place, entry)]
  return { bare with entries }

/-- Write the files that a run has changed. -/
def store (before after : FileTree) : IO Unit := do
  for (place, entry) in after.entries do
    if let .file content := entry then
      let unchanged := match before.entry? place with
        | some (.file old) => old.data == content.data
        | _ => false
      if !unchanged then IO.FS.writeBinFile (after.locationText place) content

/-- Run a command line on the file system. -/
def runProgram (words : List String) : IO UInt32 := do
  let environment := (← IO.getEnv CommandLine.environmentName).getD ""
  let files ← gather words environment
  match CommandLine.run words environment files with
  | .error failure =>
    let words := failure.message.getD "the input cannot be decoded, or the output not encoded"
    (← IO.getStderr).putStr (words ++ "\n")
    return 1
  | .ok outcome =>
    store files outcome.files
    (← IO.getStdout).putStr outcome.stdout
    (← IO.getStderr).putStr outcome.stderr
    return UInt32.ofNat outcome.exitCode

end Folio

/-- The entry point. -/
def main (words : List String) : IO UInt32 := Folio.runProgram words
