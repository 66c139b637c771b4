import ScreenSynthesis.CommandLine.Run

/-!
# The program

The outer layer of the command line: it looks up the files that the arguments name, reads the
environment, and prints what `CommandLine.run` makes of them.
-/

namespace ScreenSynthesis.CommandLine

/-- What is found at a path of the file system. -/
def lookUp (path : String) : IO FileEntry := do
  try
    let bytes ← IO.FS.readBinFile path
    match String.fromUTF8? bytes with
    | some content => return .text content
    | none => return .binary
  catch e =>
    match e with
    | .inappropriateType _ code _ =>
      -- The code of "not a directory" comes with either sign.
      return if code = 20 ∨ code = -20 then .behindFile else .directory
    | _ => return .missing

/-- The paths that some words name. -/
def pathsOf (words : List String) : List String :=
  match Request.ofWords? words with
  | some (.run a) => a.config.toList ++ a.units
  | _ => []

/-- The entries of the environment. -/
def readEnvironment : IO (List (String × String)) := do
  let bytes ← IO.FS.readBinFile "/proc/self/environ"
  let entries := Text.pieces '\x00' ((String.fromUTF8? bytes).getD "").toList
  return entries.filterMap fun entry =>
    match entry.dropWhile (· ≠ '=') with
    | _ :: value => some (String.ofList (entry.takeWhile (· ≠ '=')), String.ofList value)
    | [] => none

end ScreenSynthesis.CommandLine

open ScreenSynthesis.CommandLine in
/-- Runs the program on the words behind its name. -/
def main (words : List String) : IO UInt32 := do
  let found ← (pathsOf words).mapM fun path => return (path, ← lookUp path)
  let files : Files := fun path => (found.lookup path).getD .missing
  let environment ← readEnvironment
  let outcome := run files environment words
  match outcome with
  | .rejected => IO.eprintln ("error: unexpected arguments\n" ++ usageText)
  | .stopped error =>
    IO.eprintln (paint (isColoured environment) .boldRed "error:" ++ " " ++ error.message)
  | .finished _ _ => pure ()
  IO.print outcome.printed
  return outcome.exitCode.toUInt32
