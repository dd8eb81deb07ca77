import Dataflow.CommandLine

/-!
# The program
-/

/-- Prints what a command leaves behind, and exits with its code. -/
def main (arguments : List String) : IO UInt32 := do
  let result := Dataflow.CommandLine.run .plain arguments
  (← IO.getStdout).putStr result.output
  (← IO.getStderr).putStr result.errors
  return result.exitCode.toUInt32
