import ToolSchema.Command.Run

/-!
# The command line

Reads the files that the arguments and the manifest name, runs the command on what they hold, and
writes what it answers.
-/

namespace ToolSchema

/-- The reason that the system gives by a number, which may come with a sign, and in words. -/
def ReadError.ofSystem (number : UInt32) (details : String) : ReadError :=
  let number := min number (0 - number)
  if number == 2 then .notFound
  else if number == 20 then .notDirectory
  else if number == 21 then .isDirectory
  else if number == 36 then .nameTooLong
  else .other (details.capitalize ++ " (os error " ++ toString number.toNat ++ ")")

/-- Why a file could not be read. -/
def ReadError.ofIOError : IO.Error → ReadError
  | .noFileOrDirectory _ number details => .ofSystem number details
  | .inappropriateType _ number details => .ofSystem number details
  | .invalidArgument _ number details => .ofSystem number details
  | .permissionDenied _ number details => .ofSystem number details
  | .resourceExhausted _ number details => .ofSystem number details
  | .otherError number details => .ofSystem number details
  | e => .other (toString e)

/-- Reads a file. -/
def readPath (p : Path) : IO (Path × Except ReadError String) := do
  if p.text.toList.contains '\x00' then return (p, .error .nullInPath)
  try
    let bytes ← IO.FS.readBinFile p.text
    return (p, FileTree.decode bytes)
  catch e =>
    return (p, .error (.ofIOError e))

/-- Runs the command and writes its result and its remarks. -/
def runMain (args : List String) : IO UInt32 := do
  let request := Request.ofArgs args
  let named ← request.files.mapM readPath
  let documented ← (request.documentedFiles (.ofReadings named)).mapM readPath
  let ending := runCommand args (.ofReadings (named ++ documented))
  for remark in ending.remarks do
    IO.eprintln (remark.shown (fun _ ↦ none) ending.logFormat)
  IO.print ending.output
  return ending.exitCode

end ToolSchema

def main (args : List String) : IO UInt32 := ToolSchema.runMain args
