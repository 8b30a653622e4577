/-
Dispatch/Main.lean

The command line: reads the file that a command names, runs the command, and prints what it
leaves behind.
-/
import Dispatch.CommandLine.Run

namespace Dispatch.CommandLine

/-- The content of a file, if it can be read. -/
def contentOf (path : String) : IO (Option ByteArray) :=
  try
    return some (← IO.FS.readBinFile path)
  catch _ => return none

/-- Runs the command that arguments ask for, and prints its outcome. -/
def perform (args : List String) : IO UInt32 := do
  let outcome ← match Command.ofArguments? args with
    | none => pure wrongUsage
    | some command =>
      let content ← match command.path? with
        | some path => contentOf path
        | none => pure none
      pure (command.run content)
  IO.print outcome.stdout
  IO.eprint outcome.stderr
  return outcome.exitCode.toUInt32

end Dispatch.CommandLine

/-- Runs the command that the arguments ask for. -/
def main (args : List String) : IO UInt32 := Dispatch.CommandLine.perform args
