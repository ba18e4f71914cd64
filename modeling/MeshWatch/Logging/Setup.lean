import MeshWatch.Logging.Config

/-!
# Setting up logging

The files are prepared first, and only then the process's logger is installed, which can be done
once. A set-up that is refused for that reason has already prepared its files.
-/
namespace MeshWatch.Logging

/-- The time as far as names of files show it. -/
structure Stamp where
  date : String
  hour : String

inductive SetupError
  /-- The files cannot be prepared. -/
  | files
  /-- The file that is to be continued cannot be opened, in a directory that is there. -/
  | continuation
  /-- The process has a logger already. -/
  | installed
deriving DecidableEq

namespace FileOutput

/-- The file that is written at a given time. -/
def pathAt (f : FileOutput) (t : Stamp) : String :=
  match f.rotation with
  | .never => f.fixedPath
  | .daily => Path.join f.directory (dated t.date)
  | .hourly => Path.join f.directory (dated (t.date ++ "-" ++ t.hour))
where
  dated (time : String) : String := if f.stem = "" then time else f.stem ++ "." ++ time

/-- The disk with the file ready to be written, or with what was made before that failed. A file
that is kept for good starts empty; any other is continued, and the directories of its name are
made. -/
def prepare (f : FileOutput) (t : Stamp) (d : Disk) : Except SetupError Unit × Disk :=
  match d.makeDirectory (.ofText f.directory) with
  | (d, false) => (.error .files, d)
  | (d, true) =>
    let path := Path.ofText (f.pathAt t)
    match f.rotation with
    | .never => orElse d .files (d.write path (.text ""))
    | _ =>
      let d := (d.makeDirectory path.parent).1
      orElse d .continuation (d.touch path)
where
  orElse (before : Disk) (e : SetupError) : Option Disk → Except SetupError Unit × Disk
    | none => (.error e, before)
    | some d => (.ok (), d)

end FileOutput

/-- What a set-up comes to: whether it keeps a writer of a file. -/
abbrev SetupResult := Except SetupError Bool

/-- Sets up logging in a process that may have a logger already. -/
def setUp (c : Config) (t : Stamp) (hasLogger : Bool) (d : Disk) : SetupResult × Disk :=
  match c.file with
  | none => (if hasLogger then .error .installed else .ok false, d)
  | some f =>
    match f.prepare t d with
    | (.error e, d) => (.error e, d)
    | (.ok (), d) => (if hasLogger then .error .installed else .ok true, d)

end MeshWatch.Logging
