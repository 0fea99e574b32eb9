import Interlock.Menu.Tree
import Interlock.Schedule
import Interlock.Simulator.Session

namespace Interlock.Simulator

open Interlock.Menu

/-- Adds the entries of a directory and all that is below them. Entries that
    cannot be read are left out. -/
partial def addEntries (t : CardTree) (dir : String) (entries : Array IO.FS.DirEntry) :
    IO CardTree :=
  entries.foldlM
    (fun t entry => do
      let path := CardTree.child dir entry.fileName
      try
        if ← entry.path.isDir then
          addEntries (t.add (path ++ "/") []) path (← entry.path.readDir)
        else return t.add path (← IO.FS.readBinFile entry.path).toList
      catch _ => return t)
    t

/-- The contents of the directory that stands for the card. A directory that
    cannot be read is no card at all. -/
def cardAt (directory : String) : IO Card := do
  let root : IO.FS.DirEntry := ⟨".", directory⟩
  try return (← addEntries {} "" (← root.path.readDir)).toCard
  catch _ => return Card.absent

/-- Appends the lines of an input as they come. -/
partial def collectLines (input : IO.FS.Stream) (lines : IO.Ref (Array String)) : IO Unit := do
  let line ← input.getLine
  if line.isEmpty then return
  lines.modify fun before => before ++ (Text.lines line)
  collectLines input lines

/-- Writes the records that are urgent enough. -/
def writeLog (least : Severity) (records : List LogRecord) : IO Unit := do
  for record in LogRecord.filter least records do
    IO.eprintln s!"{record.severity.name} {record.message}"

/-- Rounds of the session, with a wait for the schedule before each. The
    operator's lines that came in meanwhile belong to the round, and the log
    goes to standard error. -/
partial def runRounds (options : Options) (lines : IO.Ref (Array String)) (session : Session)
    (schedule : Schedule) : IO Unit := do
  IO.sleep (schedule.remaining (← IO.monoMsNow)).toUInt32
  let (schedule, due) := schedule.advance (← IO.monoMsNow)
  let arrived ← lines.modifyGet fun lines => (lines.toList, #[])
  let card ← if arrived.isEmpty then pure Card.absent else cardAt options.cardDirectory
  let round := session.round due.toNat card arrived
  writeLog options.severity round.trace.records
  for line in round.value.printed do IO.println line
  (← IO.getStdout).flush
  let session := round.value.session
  if round.value.stopped then return
  else if options.ticks.elim false fun limit => limit ≤ session.controller.seconds then return
  else runRounds options lines session schedule

/-- Runs a session with the given settings. -/
def runSession (options : Options) (settings : Settings) : IO Unit := do
  let built := Session.ofSettings settings
  writeLog options.severity built.trace.records
  let lines ← IO.mkRef #[]
  let _ ← IO.asTask (collectLines (← IO.getStdin) lines) .dedicated
  runRounds options lines built.value (.every (1000 / Session.pollsPerSecond) (← IO.monoMsNow))

/-- The bytes of a file, if it can be read. -/
def bytesAt (path : String) : IO (Option (List UInt8)) := do
  try return some (← IO.FS.readBinFile path).toList
  catch _ => return none

end Interlock.Simulator

open Interlock Interlock.Simulator

/-- Runs the simulator and gives its exit code. -/
def main (arguments : List String) : IO UInt32 := do
  match Launch.ofArguments arguments with
  | .help =>
    for line in helpText do IO.println line
    return 0
  | .version =>
    IO.println versionText
    return 0
  | .usage problem =>
    IO.eprintln s!"error: {problem}"
    return 2
  | .run options =>
    let file ← options.config.elim (pure none) bytesAt
    match settingsOf options fun _ => file with
    | .error cause =>
      IO.eprintln s!"error: {cause.message}"
      return 1
    | .ok settings =>
      runSession options settings
      return 0
