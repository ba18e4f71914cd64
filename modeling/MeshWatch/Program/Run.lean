import MeshWatch.Logging.Filter
import MeshWatch.Logging.Setup
import MeshWatch.Profile.Convert
import MeshWatch.Profile.Store
import MeshWatch.Program.Arguments
import MeshWatch.Report

/-!
# Commands

What each command does with a disk: what it prints, how it ends, what it notes and what it leaves
on the disk. Watching is followed up to an interrupt right after the first cycle.
-/
namespace MeshWatch.Program

open Monitor (Engine Simulation)

inductive Failure
  | filter (text : String)
  | logFile (directory : String)
  | reading (path : String)
  | snapshot (e : Snapshot.SnapshotError)
  | wideTable
  | loading (path : String)
  | watching (e : Watch.WatchError)
  | writing (path : String)
  | noProfile (id : String)

def Failure.message : Failure → String
  | filter text => "unusable log level " ++ text
  | logFile directory => "opening a log file in " ++ directory
  | reading path => "reading " ++ path
  | snapshot e => e.message
  | wideTable => "a column of the table is too wide"
  | loading path => "loading " ++ path
  | watching e => e.message
  | writing path => "writing " ++ path
  | noProfile id => "no profile with id " ++ id

structure Outcome where
  printed : String
  failure : Option Failure
  notes : List Note
  disk : Disk

def inspect (d : Disk) (path name : String) : Outcome :=
  match d.readText? (.ofText path) with
  | none => ⟨"", some (.reading path), [], d⟩
  | some text =>
    let notes := Snapshot.decodeNotes text name
    match Snapshot.decode text name with
    | .error e => ⟨"", some (.snapshot e), notes, d⟩
    | .ok s =>
      match Report.inspect? s with
      | none => ⟨"", some .wideTable, notes, d⟩
      | some report => ⟨report ++ "\n", none, notes ++ Event.translateNotes s.records, d⟩

/-- The settings of a monitor in a file, or the standard ones. -/
def monitorConfig (d : Disk) : Option String → Except Failure Monitor.Config
  | none => .ok .standard
  | some path =>
    match (d.readText? (.ofText path)).bind Monitor.Config.ofToml? with
    | some c => .ok c
    | none => .error (.loading path)

/-- Writes a history to a file and says so. -/
def exportTo (d : Disk) (path : String) (h : History) (format : Watch.Format) : Outcome :=
  let notes := Watch.exportNotes h format
  match Watch.exported? h format with
  | none => ⟨"No events collected, nothing exported\n", none, notes, d⟩
  | some text =>
    match d.write (.ofText path) (.text text) with
    | none => ⟨"", some (.writing path), notes, d⟩
    | some d =>
      ⟨"Exported " ++ toString h.length ++ " events to " ++ path ++ "\n", none, notes, d⟩

/-- What was printed and noted before, and then what follows. -/
def Outcome.after (printed : String) (notes : List Note) (o : Outcome) : Outcome :=
  { o with printed := printed ++ o.printed, notes := notes ++ o.notes }

def watch (d : Disk) (path name : String) (config target : Option String)
    (format : Watch.Format) : Outcome :=
  match monitorConfig d config with
  | .error e => ⟨"", some e, [], d⟩
  | .ok config =>
    let monitor := Simulation.new config.period (Engine.ofFile d (.ofText path) name)
    match Watch.run monitor name [] 1 true with
    | (.error e, printed, monitor) => ⟨printed, some (.watching e), monitor.notes, d⟩
    | (.ok history, printed, monitor) =>
      match target with
      | none => ⟨printed, none, monitor.notes, d⟩
      | some target => (exportTo d target history format).after printed monitor.notes

def render (d : Disk) (directory : String) (id : Option String) (supply : Supply) : Outcome :=
  let (outcome, book, _) := Book.load d (.ofText directory) supply
  let notes := [outcome.note]
  match id with
  | none => ⟨book.active.toToml, none, notes, d⟩
  | some id =>
    match book.get? id with
    | none => ⟨"", some (.noProfile id), notes, d⟩
    | some p => ⟨p.toToml, none, notes, d⟩

def Command.run (c : Command) (d : Disk) (supply : Supply) : Outcome :=
  match c with
  | .inspect path name => Program.inspect d path name
  | .watch path name config target format => Program.watch d path name config target format
  | .render directory id => Program.render d directory id supply

/-! ## The whole program -/

def Invocation.logging (i : Invocation) : Logging.Config where
  level := i.logLevel
  console := Logging.Config.interactive.console
  file := i.logDirectory.map .new

/-- The filter that notes go through, and the disk with the log file. Without a directory for that
file nothing is logged; an unusable filter, or a file that cannot be opened in its directory, ends
the program. -/
def Invocation.setUp (i : Invocation) (t : Logging.Stamp) (d : Disk) :
    Except Failure Logging.Filter × Disk :=
  match Logging.Filter.ofText? i.logLevel with
  | none => (.error (.filter i.logLevel), d)
  | some filter =>
    match Logging.setUp i.logging t false d with
    | (.error .continuation, d) => (.error (.logFile (i.logDirectory.getD "")), d)
    | (.error _, d) => (.ok .closed, d)
    | (.ok _, d) => (.ok filter, d)

/-- Sets up logging and runs the command. -/
def Invocation.run (i : Invocation) (t : Logging.Stamp) (d : Disk) (supply : Supply) : Outcome :=
  match i.setUp t d with
  | (.error e, d) => ⟨"", some e, [], d⟩
  | (.ok filter, d) =>
    let outcome := i.command.run d supply
    { outcome with notes := outcome.notes.filter filter.passes }

def Refusal.exitCode : Refusal → Nat
  | .help => 0
  | .usage => 2

/-- Failures of the logger and of the layout have a code of their own. -/
def Failure.exitCode : Failure → Nat
  | filter _ | logFile _ | wideTable => 101
  | _ => 1

def Outcome.exitCode (o : Outcome) : Nat := (o.failure.map Failure.exitCode).getD 0

end MeshWatch.Program
