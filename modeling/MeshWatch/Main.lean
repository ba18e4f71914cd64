import MeshWatch.Logging.Calendar
import MeshWatch.Program.Run

/-!
# The program

Reads the files that a command looks at, runs the command and carries out what it comes to. Only
here the world is touched: files, the two output streams, the clock. A watched session ends when
standard input does.
-/
namespace MeshWatch.Program

/-- Seconds since the first of January 1970, as a new file shows them. -/
def currentSeconds : IO Nat := do
  let (_, path) ← IO.FS.createTempFile
  let seconds := (← path.metadata).modified.sec.toNat
  IO.FS.removeFile path
  return seconds

def freshSupply : IO Supply := do
  let bytes ← IO.getRandomBytes 16
  return .ofSeed (bytes.foldl (fun n b => n * 256 + b.toNat) 0)

def readContents? (path : String) : IO (Option Contents) := do
  try
    let bytes ← IO.FS.readBinFile path
    return some (match String.fromUTF8? bytes with
      | some text => .text text
      | none => .bytes)
  catch _ => return none

/-- A disk with some of the files that there are. -/
def loadDisk (paths : List String) : IO Disk :=
  paths.foldlM (fun d path => do
    match ← readContents? path with
    | none => return d
    | some c => return (d.put (.ofText path) c).getD d) Disk.empty

/-- The files that a command reads. -/
def Command.files : Command → List String
  | .inspect path _ => [path]
  | .watch path _ config _ _ => path :: config.toList
  | .render directory _ => [Path.join directory "profiles.json"]

/-- Where the program's notes go. -/
structure Logger where
  filter : Logging.Filter
  file : Option String

/-- Prepares the log file; without one notes go to the console only. -/
def Logger.make (i : Invocation) (filter : Logging.Filter) : IO (Except Failure Logger) := do
  match i.logging.file with
  | none => return .ok ⟨filter, none⟩
  | some f =>
    let path := f.pathAt (.ofSeconds (← currentSeconds))
    try
      IO.FS.createDirAll f.directory
    catch e =>
      IO.eprintln ("Warning: logging not initialized: " ++ toString e)
      return .ok ⟨.closed, none⟩
    try
      IO.FS.withFile path .append fun _ => pure ()
      return .ok ⟨filter, some path⟩
    catch _ => return .error (.logFile f.directory)

def noteLine (seconds : Nat) (n : Note) : String :=
  Json.compact (.record [("timestamp", .text (Logging.momentText seconds)),
    ("level", .text n.severity.label), ("message", .text n.message), ("target", .text n.origin)])

def Logger.log (l : Logger) (notes : List Note) : IO Unit := do
  for n in notes.filter l.filter.passes do
    IO.eprintln (n.severity.label ++ " " ++ n.message)
    if let some path := l.file then
      let line := noteLine (← currentSeconds) n
      IO.FS.withFile path .append fun h => h.putStrLn line

/-- Prints what a command comes to and returns the exit code. -/
def finish (l : Logger) (o : Outcome) : IO UInt32 := do
  l.log o.notes
  IO.print o.printed
  if let some failure := o.failure then IO.eprintln ("Error: " ++ failure.message)
  return o.exitCode.toUInt32

/-- How often a watched file is looked at, in milliseconds. -/
def pause : UInt32 := 20

/-- Watches until standard input ends. -/
partial def watchOn (l : Logger) (path name : String) (begun : Nat) (inputEnds : Task Unit)
    (r : Watch.Run) : IO Watch.Run := do
  let disk ← loadDisk [path]
  let engine := Monitor.Engine.ofFile disk (.ofText path) name
  let time := (← IO.monoMsNow) - begun
  let r' := ({ r with monitor := { r.monitor with engine := engine, notes := [] } }.moveTo
    time).settle
  l.log r'.monitor.notes
  for addition in r'.watcher.printed.drop r.watcher.printed.length do
    IO.print addition.text
  (← IO.getStdout).flush
  if ← IO.hasFinished inputEnds then return r'
  IO.sleep pause
  watchOn l path name begun inputEnds r'

partial def drain (input : IO.FS.Stream) : IO Unit := do
  unless (← input.getLine).isEmpty do drain input

/-- Exports the history of a session that was watched. -/
def exportHistory (l : Logger) (history : History) (target : String) (format : Watch.Format) :
    IO UInt32 := do
  let (d, _) := Disk.empty.makeDirectory (Path.ofText target).parent
  let outcome := exportTo d target history format
  match Watch.exported? history format with
  | none => finish l outcome
  | some text =>
    try
      IO.FS.writeFile target text
      finish l outcome
    catch _ => finish l { outcome with printed := "", failure := some (.writing target) }

def runWatch (l : Logger) (path name : String) (config target : Option String)
    (format : Watch.Format) : IO UInt32 := do
  let disk ← loadDisk (path :: config.toList)
  match monitorConfig disk config with
  | .error e => finish l ⟨"", some e, [], disk⟩
  | .ok config =>
    let engine := Monitor.Engine.ofFile disk (.ofText path) name
    match (Monitor.Simulation.new config.period engine).start name with
    | .error e => finish l ⟨"", some (.watching (.start e)), [], disk⟩
    | .ok monitor =>
      l.log monitor.notes
      let input ← IO.getStdin
      let inputEnds := (← IO.asTask (drain input) .dedicated).map fun _ => ()
      let r ← watchOn l path name (← IO.monoMsNow) inputEnds
        ⟨{ monitor with notes := [] }, .new monitor.state.view⟩
      let r := { r with monitor := { r.monitor with notes := [] } }.signal (.shutDown true)
      l.log r.monitor.stop.notes
      match target with
      | none => return 0
      | some target => exportHistory l r.watcher.history target format

def usageText : String :=
  "Mesh network status and log viewer\n\n" ++
    "Usage: meshlens [--log-level LEVEL] [--log-dir DIR] COMMAND\n\n" ++
    "Commands:\n" ++
    "  inspect --snapshot FILE --instance NAME\n" ++
    "  watch --snapshot FILE --instance NAME [--config FILE] [--export FILE] " ++
    "[--format json|text]\n" ++
    "  render --data-dir DIR [--id ID]\n"

def runCommand (l : Logger) : Command → IO UInt32
  | .watch path name config target format => runWatch l path name config target format
  | command => do finish l (command.run (← loadDisk command.files) (← freshSupply))

/-- Ends before there is a logger. -/
def breakOff (e : Failure) : IO UInt32 := finish ⟨.closed, none⟩ ⟨"", some e, [], .empty⟩

/-- Runs the program on its arguments and returns the exit code. -/
def runArguments (args : List String) : IO UInt32 := do
  match readArguments args with
  | .error .help =>
    IO.print usageText
    return Refusal.help.exitCode.toUInt32
  | .error .usage =>
    IO.eprint usageText
    return Refusal.usage.exitCode.toUInt32
  | .ok i =>
    match Logging.Filter.ofText? i.logLevel with
    | none => breakOff (.filter i.logLevel)
    | some filter =>
      match ← Logger.make i filter with
      | .error e => breakOff e
      | .ok l => runCommand l i.command

end MeshWatch.Program

def main (args : List String) : IO UInt32 := MeshWatch.Program.runArguments args
