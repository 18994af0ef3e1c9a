import SearchPanel.Command.Answer

/-!
# The program

Reads the index that the command line names and writes the answer. A command line that asks for
nothing is refused with exit code 2.
-/

open SearchPanel SearchPanel.Command

/-- Why the system could not read a file. -/
def readError : IO.Error → ReadError
  | .noFileOrDirectory _ _ _ => .notFound
  | .inappropriateType _ 21 _ => .isADirectory
  | .inappropriateType _ _ _ => .notADirectory
  | .permissionDenied _ code reason => .refused reason code.toNat
  | .otherError code reason => .refused reason code.toNat
  | e => .refused (toString e) 0

/-- The text of the file at a path. -/
def readPath (path : String) : IO (Except ReadError String) := do
  try
    return readText (some (.bytes (← IO.FS.readBinFile path)))
  catch e =>
    return .error (readError e)

def main (arguments : List String) : IO UInt32 := do
  match Request.ofArguments arguments with
  | .error e =>
    (← IO.getStderr).putStrLn e.message
    return 2
  | .ok request =>
    let stdout ← IO.getStdout
    let environment : Environment :=
      { theme := ← IO.getEnv "SIDESEARCH_THEME"
        background := ← IO.getEnv "COLORFGBG"
        noColor := ← IO.getEnv "NO_COLOR"
        terminal := ← stdout.isTty }
    let content ← match request.path? with
      | some path => readPath path
      | none => pure (.error .notFound)
    let output := request.answer environment.display fun _ => content
    stdout.putStr output.stdout
    (← IO.getStderr).putStr output.stderr
    return output.exit.toUInt32
