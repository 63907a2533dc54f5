import SnippetCost.Command.Run

/-!
# Entry point

Reads what the arguments ask for, runs the command, and prints what it says.
-/

namespace SnippetCost

/-- All that is left to read of a stream, behind what has been read of it. -/
partial def readAll (stream : IO.FS.Stream) (done : ByteArray) : IO ByteArray := do
  let chunk ← stream.read 65536
  if chunk.isEmpty then return done else readAll stream (done ++ chunk)

/-- The content of the file at a path, if it can be read. -/
def readFile? (path : Text) : IO (Option ByteArray) := do
  try
    return some (← IO.FS.readBinFile (String.ofList path))
  catch _ => return none

/-- Read the files that an invocation names, and the standard input if it names no other. -/
def gather (i : Invocation) : IO Sources := do
  let paths := i.config.toList ++ i.input.toList
  let contents ← paths.mapM fun path => return (path, ← readFile? path)
  let standardInput ←
    if i.input.isNone then readAll (← IO.getStdin) ByteArray.empty else pure ByteArray.empty
  return { standardInput, file? := fun path => (contents.lookup path).bind id }

end SnippetCost

open SnippetCost in
/-- Run the program on its arguments. -/
def main (args : List String) : IO UInt32 := do
  let args := args.map String.toList
  let sources ←
    match Invocation.ofArguments? args with
    | some i => gather i
    | none => pure { standardInput := ByteArray.empty, file? := fun _ => none }
  let outcome := run args sources
  IO.print (String.ofList outcome.output)
  return outcome.exitCode.toUInt32
