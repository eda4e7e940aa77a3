import RegexProse.CommandLine.Run

/-!
# The program

Reads the arguments and, where no pattern is among them, standard input; writes what the run says.
-/

set_option autoImplicit false

namespace RegexProse.CommandLine

/-- Appends all bytes that the stream still holds. -/
partial def readAll (stream : IO.FS.Stream) (before : ByteArray) : IO ByteArray := do
  let bytes ← stream.read 65536
  if bytes.isEmpty then return before else readAll stream (before ++ bytes)

end RegexProse.CommandLine

open RegexProse.CommandLine in
def main (arguments : List String) : IO UInt32 := do
  let arguments := arguments.map String.toList
  let needsInput := (Options.ofArguments arguments).toOption.any Options.readsInput
  let bytes ← if needsInput then readAll (← IO.getStdin) .empty else pure .empty
  let outcome := runArguments arguments (decode bytes)
  (← IO.getStderr).putStr (String.ofList outcome.stderr)
  (← IO.getStdout).putStr (String.ofList outcome.stdout)
  return outcome.code.toUInt32
