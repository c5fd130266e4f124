import NestedRows.Command
/-!
# The program

Reads the standard input to its end and prints what the call asks for.
-/

namespace NestedRows

/-- The rest of a stream. -/
partial def readAll (stream : IO.FS.Stream) (lines : List String) : IO String := do
  let line ← stream.getLine
  if line.isEmpty then return String.join lines.reverse
  readAll stream (line :: lines)

end NestedRows

def main (arguments : List String) : IO UInt32 := do
  let input ← NestedRows.readAll (← IO.getStdin) []
  let outcome := NestedRows.Invocation.runArguments arguments input
  (← IO.getStdout).putStr outcome.output
  (← IO.getStderr).putStr outcome.problem
  return if outcome.succeeded then 0 else 1
