import MeshWatch.Disk
import MeshWatch.Saved

/-!
# Logging settings

What is logged and where to: the console, which is off, human-readable or JSON, and a file. The
name of a file is made of a stem and, unless one file is kept for good, of the time.
-/
namespace MeshWatch.Logging

open Data (Fields Mismatch Reader)
open Saved (field fieldOr)

inductive Console
  | off
  | human (colored : Bool)
  | json
deriving DecidableEq

inductive Rotation
  | daily
  | hourly
  | never
deriving DecidableEq

structure FileOutput where
  directory : String
  stem : String
  rotation : Rotation
  withLocation : Bool
deriving DecidableEq

structure Config where
  level : String
  console : Console
  file : Option FileOutput
deriving DecidableEq

namespace Console

def write : Console → Data
  | off => .record [("format", .text "off")]
  | human colored => .record [("format", .text "human"), ("ansi", .bool colored)]
  | json => .record [("format", .text "json")]

/-- The members beside the format; `json` and `off` have none and skip those that are there. -/
def ofFormat (format : String) (members : List (String × Data)) : Except Mismatch Console :=
  if format = "off" then .ok off
  else if format = "json" then .ok json
  else if format = "human" then
    Reader.record "human-readable output" (human <$> Fields.required "ansi" Reader.bool)
      .refused (.record members)
  else .error (.unknownVariant format)

/-- The items after the format; there may be no more than are needed. -/
def ofItems (format : String) (items : List Data) : Except Mismatch Console :=
  if format = "human" then
    Reader.record "human-readable output" (human <$> Fields.required "ansi" Reader.bool)
      .refused (.list items)
  else if items = [] then ofFormat format []
  else .error (.tooMany items.length)

/-- Settings of the console as plain values; they lie inside one other record. -/
def read : Reader Console := fun d =>
  match d.value? (Json.depthLimit - 1), d with
  | none, _ => .error (.wrongType d "a plain value")
  | _, .record members =>
    match members.filter (·.1 = "format") with
    | [] => .error (.missing "format")
    | [(_, format)] => do
      ofFormat (← Reader.text format) (members.filter (·.1 ≠ "format"))
    | _ => .error (.repeated "format")
  | _, .list (format :: items) => do ofItems (← Reader.text format) items
  | _, .list [] => .error (.missing "format")
  | _, other => .error (.wrongType other "settings of the console")

instance : Saved Console := ⟨write, read⟩

end Console

namespace Rotation

def name : Rotation → String
  | daily => "daily"
  | hourly => "hourly"
  | never => "never"

instance : Saved Rotation :=
  ⟨fun r => .text r.name, Reader.word ([daily, hourly, never].map fun r => (r.name, r))⟩

end Rotation

namespace FileOutput

def standardStem : String := "meshlens"

def new (directory : String) : FileOutput := ⟨directory, standardStem, .daily, false⟩

/-- Where the one file of an output without rotation lies. -/
def fixedPath (f : FileOutput) : String := Path.join f.directory (f.stem ++ ".log")

instance : Saved FileOutput where
  write f := .record [("directory", Saved.write f.directory), ("prefix", Saved.write f.stem),
    ("rotation", Saved.write f.rotation), ("with_location", Saved.write f.withLocation)]
  read := .record "a file output" (mk <$> field "directory" <*>
    fieldOr "prefix" standardStem <*> fieldOr "rotation" .daily <*> fieldOr "with_location" false)

end FileOutput

namespace Config

def standard : Config := ⟨"info", .human true, none⟩

/-- For a terminal: warnings and errors only. -/
def interactive : Config := { standard with level := "warn" }

/-- For a terminal without colors. -/
def quiet : Config := ⟨"warn", .human false, none⟩

/-- For a process that nobody looks at: a file a day and nothing on the console. -/
def background (directory : String) : Config := ⟨"info", .off, some (.new directory)⟩

def fixedPath? (c : Config) : Option String := c.file.map (·.fixedPath)

instance : Saved Config where
  write c := .record [("level", Saved.write c.level), ("console", Saved.write c.console),
    ("file", Saved.write c.file)]
  read := .record "logging settings" (mk <$> fieldOr "level" standard.level <*>
    fieldOr "console" standard.console <*> fieldOr "file" standard.file)

end Config

end MeshWatch.Logging
