import RecordFilter.CommandLine.LogLine
import RecordFilter.CommandLine.Program
import Std.Time.DateTime.Timestamp

/-!
# Running the program

What the program needs to know of the world is asked here: the environment, which of the paths it
may open are directories or files, the input, and the time. What it answers is written to the output
streams and to the log file.
-/

namespace RecordFilter

open CommandLine

/-- The directory and the file at some places, as far as there are any. -/
def lookAround (workingDirectory : Path) (places : List (List String)) : IO FileSystem := do
  let mut files : FileSystem := ⟨[], [], workingDirectory, fun _ _ => none⟩
  for place in places do
    if let .ok real ← (IO.FS.realPath (Path.toString ⟨"/", place⟩)).toBaseIO then
      if ← real.isDir then
        files := { files with directories := place :: files.directories }
      else
        files := { files with files := place :: files.files }
  return files

/-- The paths that the program may be asked to open. -/
def namedPaths (args : List String) (logName : String) (home : Option String) : List Path :=
  let texts := args.flatMap fun a => a :: ((Arguments.splitLong a).2).toList
  let named := (logName :: texts).map Path.ofString
  named ++ named.filterMap fun p => (withHome (fun _ => home) p).toOption

def millisNow : IO Nat := do
  let now ← Std.Time.Timestamp.now
  return now.toMillisecondsSinceUnixEpoch.val.toNat

def gather (args : List String) : IO Invocation := do
  let logName := (← IO.getEnv logVariable).getD ""
  let home ← IO.getEnv "HOME"
  let cwd := Path.ofString (toString (← IO.currentDir))
  let places := (namedPaths args logName home).flatMap fun p => Path.places [] (cwd.join p).parts
  let homeOf (user : String) : Option String := if user.isEmpty then home else none
  return {
    arguments := args
    environment := [(logVariable, logName)]
    home := homeOf
    files := ← lookAround cwd places
    width := usualWidth
    layout := Manual.sheet }

/-- What the environment says of the console. -/
def consoleVariables : IO (List (String × String)) := do
  let mut found := []
  for name in ["COLUMNS", "LINES"] do
    if let some value ← IO.getEnv name then
      found := (name, value) :: found
  return found

def readInput (task : Task) : IO Input := do
  let stdin ← IO.getStdin
  if ← stdin.isTty then return .terminal
  if task.readsInput then
    match ← stdin.readToEnd.toBaseIO with
    | .ok text => return .text text
    | .error e => return .unreadable (.system [.text (toString e)])
  return .text ""

def writeLog (log : FileLog) : IO Unit := do
  IO.FS.createDirAll log.path.parent.toString
  let file ← IO.FS.Handle.mk log.path.toString .append
  let now ← millisNow
  for r in log.records do
    file.putStrLn (logLine now r)

/-- Write a result where it belongs, and hand back the exit code. -/
def deliver (r : Result) : IO UInt32 := do
  if let some log := r.fileLog then
    writeLog log
  (← IO.getStdout).putStr r.output.stdout
  (← IO.getStderr).putStr r.output.stderr
  if let some b := r.breakdown then
    IO.eprintln b.message
  return r.exitCode.toUInt32

def runPlan (p : Plan) : IO Result := do
  let input ← readInput p.task
  let start ← IO.monoMsNow
  let work ← IO.lazyPure fun _ => p.task.run input
  let elapsed := (← IO.monoMsNow) - start
  match consoleWidth (← consoleVariables) none with
  | .ok width => return p.result .reliable elapsed width work
  | .error cause =>
    return p.result { Surroundings.reliable with noConsole? := some cause } elapsed usualWidth work

end RecordFilter

def main (args : List String) : IO UInt32 := do
  let inv ← RecordFilter.gather args
  match RecordFilter.CommandLine.plan inv with
  | .error (d, logFile) => RecordFilter.deliver (d.result .reliable inv.layout logFile)
  | .ok p => RecordFilter.deliver (← RecordFilter.runPlan p)
