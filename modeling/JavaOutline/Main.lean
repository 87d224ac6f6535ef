import JavaOutline.CommandLine.Program

/-!
# The executable

Prints what a run prints and ends as it ends. No grammar is linked into the
executable, so a run explains its options, or reports that the grammar is not
there; it neither reads nor writes files.
-/

open JavaOutline in
/-- Print a finished run and give its exit code. -/
def finishRun (run : CommandLine.Run) : IO UInt32 := do
  (← IO.getStdout).putStr run.output
  (← IO.getStderr).putStr run.console
  match run.ending with
  | .exited code => return code.toUInt32
  | .usage code => return code.toUInt32
  | .brokenOff fault =>
      IO.eprintln fault.message
      return 1

open JavaOutline in
/-- What the executable finds: an empty working directory and no grammar. -/
def surroundingsAt (directory : String) : CommandLine.Surroundings where
  files := .bare (Path.normalComponents (Path.components directory))
  clock := fun _ => ""
  parser := none

open JavaOutline in
/-- Run the program on the words of the command line. -/
def main (words : List String) : IO UInt32 := do
  let directory? ← IO.getEnv "PWD"
  finishRun (CommandLine.run (surroundingsAt (directory?.getD "/")) words)
