import MeshWatch.Text.Lines
import MeshWatch.Watch.Run

/-!
# Arguments

The words after the program's name: options of the whole program, a command, options of the
command. Options of the whole program may also stand behind the command, and then count before
those in front of it. An option is given once at each place, with its value as the next word or
after an equals sign.
-/
namespace MeshWatch.Program

inductive Command
  | inspect (snapshot name : String)
  | watch (snapshot name : String) (config target : Option String) (format : Watch.Format)
  | render (directory : String) (id : Option String)

structure Invocation where
  logLevel : String
  logDirectory : Option String
  command : Command

inductive Refusal
  /-- Help was asked for. -/
  | help
  | usage
deriving DecidableEq

inductive OptionName
  | logLevel
  | logDirectory
  | snapshot
  | name
  | config
  | target
  | format
  | directory
  | id
deriving DecidableEq

namespace OptionName

def word : OptionName → String
  | logLevel => "log-level"
  | logDirectory => "log-dir"
  | snapshot => "snapshot"
  | name => "instance"
  | config => "config"
  | target => "export"
  | format => "format"
  | directory => "data-dir"
  | id => "id"

/-- Paths may not be empty, formats are the ones that there are; other values are free. -/
def accepts : OptionName → String → Bool
  | snapshot, v | config, v | target, v | directory, v | logDirectory, v => v ≠ ""
  | format, v => v = "json" || v = "text"
  | logLevel, _ | name, _ | id, _ => true

/-- The options of the whole program. -/
def ofProgram : List OptionName := [logLevel, logDirectory]

end OptionName

/-- The values of options, in the order in which they were given. -/
abbrev Values := List (OptionName × String)

def Values.get? (values : Values) (o : OptionName) : Option String := values.lookup o

/-- A value is given to an option that has none yet. -/
def Values.give (values : Values) (o : OptionName) (value : String) : Except Refusal Values :=
  if (values.get? o).isSome ∨ !o.accepts value then .error .usage
  else .ok (values ++ [(o, value)])

inductive Word
  /-- A long option, with the value after its equals sign if it has one. -/
  | option (name : String) (value : Option String)
  | help
  /-- Two dashes; no option may follow. -/
  | dashes
  /-- Short options that there are not. -/
  | unknown
  | plain

def Word.ofText (s : String) : Word :=
  match s.toList with
  | ['-', '-'] => .dashes
  | '-' :: '-' :: rest =>
    match Text.cutFirst '=' rest with
    | some (name, value) => .option (String.ofList name) (some (String.ofList value))
    | none => if rest = "help".toList then .help else .option (String.ofList rest) none
  | '-' :: 'h' :: _ => .help
  | '-' :: _ :: _ => .unknown
  | _ => .plain

/-- Whether a word can be the value of the option before it. -/
def Word.isValue : Word → Bool
  | .plain => true
  | _ => false

/-- Reads options up to the first plain word. Returns their values and the words from there on. -/
def readOptions (known : List OptionName) :
    Values → List String → Except Refusal (Values × List String)
  | values, [] => .ok (values, [])
  | values, word :: rest =>
    match Word.ofText word with
    | .plain => .ok (values, word :: rest)
    | .help => .error .help
    | .unknown => .error .usage
    | .dashes => if rest = [] then .ok (values, []) else .error .usage
    | .option name value =>
      match known.find? (·.word = name), value, rest with
      | none, _, _ | _, none, [] => .error .usage
      | some o, some value, rest =>
        match values.give o value with
        | .ok values => readOptions known values rest
        | .error e => .error e
      | some o, none, value :: rest =>
        if (Word.ofText value).isValue then
          match values.give o value with
          | .ok values => readOptions known values rest
          | .error e => .error e
        else .error .usage

/-- The value of an option that must be there. -/
def Values.require (values : Values) (o : OptionName) : Except Refusal String :=
  match values.get? o with
  | some value => .ok value
  | none => .error .usage

structure CommandForm where
  word : String
  options : List OptionName
  command : Values → Except Refusal Command

def formatOf (values : Values) : Watch.Format :=
  if values.get? .format = some "text" then .text else .json

def forms : List CommandForm :=
  [⟨"inspect", [.snapshot, .name], fun v => do
      return .inspect (← v.require .snapshot) (← v.require .name)⟩,
    ⟨"watch", [.snapshot, .name, .config, .target, .format], fun v => do
      return .watch (← v.require .snapshot) (← v.require .name) (v.get? .config)
        (v.get? .target) (formatOf v)⟩,
    ⟨"render", [.directory, .id], fun v => do
      return .render (← v.require .directory) (v.get? .id)⟩]

/-- The command `help` takes the name of a command, or of none. -/
def readHelp : List String → Refusal
  | [] => .help
  | [word] => if word ∈ "help" :: forms.map (·.word) then .help else .usage
  | _ => .usage

/-- The options of a command, which take up all words that are left. -/
def readCommand (form : CommandForm) (words : List String) :
    Except Refusal (Values × Command) := do
  match ← readOptions (form.options ++ OptionName.ofProgram) [] words with
  | (values, []) => return (values, ← form.command values)
  | (_, _ :: _) => .error .usage

def standardLevel : String := "warn"

/-- What the program is asked to do. -/
def readArguments (words : List String) : Except Refusal Invocation := do
  match ← readOptions OptionName.ofProgram [] words with
  | (_, []) => .error .usage
  | (front, word :: words) =>
    if word = "help" then .error (readHelp words)
    else
      match forms.find? (·.word = word) with
      | none => .error .usage
      | some form =>
        let (back, command) ← readCommand form words
        let value (o : OptionName) := (back.get? o).or (front.get? o)
        return ⟨(value .logLevel).getD standardLevel, value .logDirectory, command⟩

end MeshWatch.Program
