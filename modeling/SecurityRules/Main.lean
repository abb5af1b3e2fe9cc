import SecurityRules.Command.Run

/-!
# The program

Reads the arguments and carries out the actions they stand for on the real file
system. What to do is decided elsewhere, and a step fails here for the reasons
for which it fails in memory.
-/

namespace SecurityRules

/-- The number of the system error for a directory in place of a file. -/
def directoryErrorNumber : UInt32 := 21

/-- The number of the system error for a name that is too long. -/
def longNameErrorNumber : UInt32 := 36

/-- What a path leads to on the real file system. -/
def inspectPath (path : Path) : IO (Except PathFault Node) := do
  if path.text.holds '\x00' || (Path.strayHalves? 0 path.text).isSome then
    return .error .missing
  try
    let bytes ← IO.FS.readBinFile path.text.toString
    return .ok (.file bytes.toList)
  catch
    | .inappropriateType _ number _ =>
        return if number = directoryErrorNumber then .ok .directory else .error .notDirectory
    | .noFileOrDirectory .. => return .error .missing
    | .invalidArgument file number details =>
        if number = longNameErrorNumber then return .error .tooLong
        else throw (.invalidArgument file number details)
    | fault => throw fault

/-- Gives a file of the real file system its bytes. -/
def writeBytes (path : Path) (bytes : Bytes) : IO (Except WriteFault Unit) := do
  try
    IO.FS.writeBinFile path.text.toString ⟨bytes.toArray⟩
    return .ok ()
  catch
    | .inappropriateType _ number _ =>
        return .error (if number = directoryErrorNumber then .isDirectory else .path .notDirectory)
    | .noFileOrDirectory .. => return .error (.path .missing)
    | .invalidArgument file number details =>
        if number = longNameErrorNumber then return .error (.path .tooLong)
        else throw (.invalidArgument file number details)
    | fault => throw fault

/-- Writes a text to a file of the real file system. A text that has no bytes
leaves the file empty. -/
def writePath (path : Path) (content : Text) : IO (Except WriteFault Unit) := do
  match Path.strayHalves? 0 path.text with
  | some halves => return .error (.loneHalves halves)
  | none =>
      if path.text.holds '\x00' then return .error .nullCharacter
      match Utf8.encode content with
      | .ok bytes => writeBytes path bytes
      | .error halves =>
          match ← writeBytes path [] with
          | .ok () => return .error (.loneHalves halves)
          | .error fault => return .error fault

/-- Prints a text, unless the console cannot take it. -/
def printOn (console : Console) (t : Text) : IO (Except Utf8.LoneHalves Unit) := do
  match console.refused? t with
  | some halves => return .error halves
  | none =>
      IO.print t.toString
      return .ok ()

/-- Steps on the real file system. -/
def systemInterpreter (console : Console) : Interpreter IO where
  inspect := inspectPath
  write := writePath
  print := printOn console
  log event := IO.eprintln event.message.toString

/-- The columns of a console when nothing else is said. -/
def defaultColumns : Nat := 80

/-- The console that the program has been started on. -/
def systemConsole : IO Console := do
  let columns := ((← IO.getEnv "COLUMNS").bind String.toNat?).getD defaultColumns
  return if h : 13 ≤ columns then { columns, wide := h, takesHalves := false }
    else { columns := defaultColumns, takesHalves := false }

/-- Runs the program and gives its exit code. -/
def runProgram (arguments : List String) : IO UInt32 := do
  match Invocation.ofArguments (arguments.map Text.ofString) with
  | .error (.help grammar) =>
      IO.print grammar.helpText.toString
      return 0
  | .error (.misuse grammar misuse) =>
      IO.eprint (grammar.complaint misuse).toString
      return 2
  | .ok invocation =>
      let directory := Text.ofString (← IO.currentDir).toString
      let console ← systemConsole
      match ← (invocation.action { directory, console }).interpret (systemInterpreter console) with
      | .ok code => return code.toUInt32
      | .error failure =>
          IO.eprintln failure.message.toString
          return 1

end SecurityRules

def main (arguments : List String) : IO UInt32 :=
  SecurityRules.runProgram arguments
