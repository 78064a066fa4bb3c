import EntityCrud.CommandLine.Run
/-! The program: reads the file that the arguments name, prints the output and fails with
the message of the outcome. -/
namespace EntityCrud.CommandLine

/-- The cause behind a failed read. What is not told apart here keeps the words of the
operating system. -/
def faultOf : IO.Error → FileFault
  | .noFileOrDirectory .. => .notFound
  | .inappropriateType _ _ "Is a directory" => .isDirectory
  | .inappropriateType _ _ "not a directory" => .notADirectory
  | .invalidArgument _ _ "name too long" => .nameTooLong
  | .permissionDenied .. => .other "Permission denied (os error 13)"
  | fault => .other (toString fault)

def readText (path : String) : IO (Except FileFault String) := do
  if path.toList.contains '\x00' then return .error .nulInPath
  try
    return decodeText (← IO.FS.readBinFile path)
  catch fault => return .error (faultOf fault)

/-- Runs the program on its arguments and gives the exit code. -/
def execute (arguments : List String) : IO UInt32 := do
  let parsed := Invocation.parse arguments
  let outcome ← match parsed with
    | .error fault => pure (Outcome.fail fault.message)
    | .ok invocation =>
      match invocation.config? with
      | none => pure (invocation.run (.ok ""))
      | some path => pure (invocation.run (← readText path))
  if parsed.toOption.any Invocation.verbose then
    outcome.events.forM fun event => IO.eprintln event.line
  IO.print outcome.output
  match outcome.failure with
  | none => return 0
  | some message =>
    IO.eprintln message
    return 1

end EntityCrud.CommandLine

def main (arguments : List String) : IO UInt32 := EntityCrud.CommandLine.execute arguments
