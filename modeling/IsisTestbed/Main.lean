import IsisTestbed.CommandLine.Run
import Std.Time

/-!
The program. It loads the files of a command into a store, runs the command on it, and writes the
files that have changed.
-/

namespace IsisTestbed.Program

/-- The path of a place in the file system. -/
def pathOf : List String → String
  | "/" :: steps => "/" ++ "/".intercalate steps
  | steps => "/".intercalate steps

/-- The content of a file, if there is one that can be read. -/
def read (path : String) : IO (Option String) := do
  try
    return some (← IO.FS.readFile path)
  catch _ =>
    return none

/-- The part of the file system that lies on the way to some paths. -/
def load (paths : List String) : IO FileStore := do
  let root ← IO.currentDir
  let empty : FileStore := { current := "/" :: Store.steps root.toString }
  let places := paths.flatMap fun path => Store.way (empty.start path) (Store.steps path)
  let mut s := empty
  for place in places.eraseDups do
    let path := pathOf place
    if ← (root / path).isDir then
      s := { s with directories := place :: s.directories }
    else
      match ← read path with
      | some content => s := s.put place content
      | none => pure ()
  return s

/-- The numbered paths from `n` on at which there is something. -/
partial def takenPaths (stem timestamp : String) (n : Nat) : IO (List String) := do
  let path := FileStore.numberedPath stem timestamp n
  if ← ((← IO.currentDir) / path).pathExists then
    return path :: (← takenPaths stem timestamp (n + 1))
  else
    return [path]

/-- Writes the files in which two stores differ. -/
def save (before after : FileStore) : IO Unit := do
  for (place, content) in after.files do
    if before.content? place != some content then
      IO.FS.writeFile (pathOf place) content

/-- The local time, as it stands in the names of files. -/
def timestamp : IO String := do
  return (← Std.Time.PlainDateTime.now).format "uuuu-MM-dd_HH-mm-ss"

/-- Runs the command that some words make. -/
def execute (words : List String) : IO UInt32 := do
  let now ← timestamp
  let command := CommandLine.Command.ofWords? words
  let paths := (command.map CommandLine.Command.paths).getD []
  let taken ← match command.bind CommandLine.Command.stem? with
    | some stem => takenPaths stem now 0
    | none => pure []
  let before ← load (paths ++ taken)
  let outcome := CommandLine.run before now words
  save before outcome.files
  IO.print outcome.output
  return UInt32.ofNat outcome.exitCode

end IsisTestbed.Program

/-- Runs the command that the words of the call make; what cannot be written is a failure. -/
def main (words : List String) : IO UInt32 := do
  try
    IsisTestbed.Program.execute words
  catch e =>
    IO.eprintln (toString e)
    return 1
