import Std.Time.Zoned
import UploadTemplate.Command.Help
import UploadTemplate.Command.Run
import UploadTemplate.Command.Sources

/-!
# The command line

Brings together what a command may read, runs it, prints what it says and writes the files that it
has changed. Nothing is sent: every request stays without an answer.
-/

namespace UploadTemplate.CommandLine

def isDirectory (path : Text) : IO Bool := do
  try
    let _ ← IO.FS.realPath (String.ofList path ++ "/.")
    return true
  catch _ => return false

/-- Adds the file at a path, if there is one, and the directories on the way to it. -/
def addFile (fs : Files) (path : Text) : IO Files := do
  let mut fs := fs
  for directory in Files.directoriesOn path do
    if ← isDirectory directory then fs := fs.withDirectory directory
  try
    let bytes ← IO.FS.readBinFile (String.ofList path)
    return fs.put (Files.place path) bytes.toList
  catch _ => return fs

def readFiles (c : Command) : IO Files := do
  let named ← c.paths.foldlM addFile ⟨[]⟩
  (c.lineSources named).foldlM addFile named

def value? (name : String) : IO (Option Text) := do
  return (← IO.getEnv name).map (·.toList)

def readEnvironment : IO Environment := do
  let hostFile ← try pure (some (← IO.FS.readFile "/etc/hostname").toList) catch _ => pure none
  return {
    user := ← value? "USER"
    userName := ← value? "USERNAME"
    logName := ← value? "LOGNAME"
    hostName := ← value? "HOSTNAME"
    computerName := ← value? "COMPUTERNAME"
    hostFile }

/-- The time, under the offset of the local zone. -/
def readClock : IO Clock.Moment := do
  let now ← Std.Time.DateTime.now
  let nanos := now.toTimestamp.toNanosecondsSinceUnixEpoch.val
  return ⟨nanos / 1000000000, (nanos % 1000000000).toNat, now.offset.second.val⟩

def readDraws : IO Draws := do
  let bytes ← IO.getRandomBytes 8
  return .ofSeed (bytes.toList.foldl (fun n b => n * 256 + b.toUInt64) 0)

/-- Writes the files that have changed. -/
def writeFiles (before after : Files) : IO Unit := do
  for (l, bytes) in after.entries do
    if !before.entries.contains (l, bytes) then
      IO.FS.writeBinFile (String.ofList (Files.pathOf l)) ⟨bytes.toArray⟩

def runCommand (c : Command) : IO UInt32 := do
  let files ← readFiles c
  let scene : Scene :=
    { surroundings := ⟨← readEnvironment, files, ← readClock⟩
      draws := ← readDraws
      send := fun r _ => .error ("Failed to send request to " ++ r.url) }
  let outcome := Command.run scene c
  (← IO.getStdout).putStr (String.ofList outcome.output)
  writeFiles files outcome.files
  match outcome.error with
  | none => return 0
  | some e =>
    (← IO.getStderr).putStrLn ("Error: " ++ String.ofList e.message)
    return 1

end UploadTemplate.CommandLine

open UploadTemplate in
def main (arguments : List String) : IO UInt32 := do
  match Command.ofArguments (arguments.map String.toList) with
  | .ok c => CommandLine.runCommand c
  | .error .help =>
    (← IO.getStdout).putStr (String.ofList Command.help)
    return 0
  | .error e =>
    (← IO.getStderr).putStr ("error: " ++ String.ofList e.message ++ "\n\n" ++
      String.ofList Command.help)
    return 2
