import MeshWatch.Saved

/-!
# Log entries

A translated event, ready to be shown. Entries of level `config` are made locally and shown
without their time.
-/
namespace MeshWatch

inductive Level
  | info
  | success
  | warning
  | error
  | config
deriving DecidableEq

namespace Level

def label : Level → String
  | info => "INFO"
  | success => "SUCCESS"
  | warning => "WARNING"
  | error => "ERROR"
  | config => "CONFIG"

def name : Level → String
  | info => "Info"
  | success => "Success"
  | warning => "Warning"
  | error => "Error"
  | config => "Config"

def named : List (String × Level) :=
  [info, success, warning, error, config].map fun l => (l.name, l)

instance : Saved Level := ⟨fun l => .text l.name, Data.Reader.word named⟩

end Level

structure LogEntry where
  /-- The clock of `rawTime`, as `HH:MM:SS`. -/
  time : String
  message : String
  level : Level
  rawTime : String
deriving DecidableEq

namespace LogEntry

def displayText (e : LogEntry) : String :=
  if e.level = .config then e.message else "[" ++ e.time ++ "] " ++ e.message

def exportLine (e : LogEntry) : String :=
  "[" ++ e.time ++ "] [" ++ e.level.label ++ "] " ++ e.message

/-- A local entry, made when the clock showed `time`. -/
def ofConfig (time rawTime message : String) : LogEntry := ⟨time, message, .config, rawTime⟩

open Saved (field write)

instance : Saved LogEntry where
  write e := .record [("time", write e.time), ("message", write e.message),
    ("level", write e.level), ("raw_time", write e.rawTime)]
  read := .record "a log entry" (LogEntry.mk <$> field "time" <*> field "message" <*>
    field "level" <*> field "raw_time")

end LogEntry

end MeshWatch
