import LightShow.CommandLine

/-!
The program. Notes and errors go to the error stream.
-/

namespace LightShow.CommandLine

def faultOfError : IO.Error → DiskFault
  | .noFileOrDirectory .. => .notFound
  | .inappropriateType _ 20 _ => .notDirectory
  | .inappropriateType .. => .isDirectory
  | .invalidArgument _ 36 _ => .nameTooLong
  | e => .other (toString e)

def attempt {α : Type} (action : IO α) : IO (Except DiskFault α) := do
  try
    return .ok (← action)
  catch e =>
    return .error (faultOfError e)

def systemDisk : Disk IO where
  read path := attempt (IO.FS.readFile path)
  write path text := attempt (IO.FS.writeFile path text)

def runProgram (args : List String) : IO UInt32 := do
  let outcome ← respond systemDisk args
  for note in outcome.notes do
    if note.level ≠ .debug then
      IO.eprintln (Text.forTerminal note.line)
  IO.print outcome.printed
  if let some f := outcome.failure then
    IO.eprintln ("ERROR " ++ f.line)
  if outcome.code = 2 then
    IO.eprint usage
  return outcome.code.toUInt32

end LightShow.CommandLine

def main (args : List String) : IO UInt32 := LightShow.CommandLine.runProgram args
