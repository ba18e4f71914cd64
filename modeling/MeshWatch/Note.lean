/-!
# Notes

What the program reports about its own work beside its results. A note names the part of the
program it comes from, the values that it tells beside its message, and the activity that it was
made in, if there was one.
-/
namespace MeshWatch

inductive Severity
  | error
  | warn
  | info
  | debug
  | trace
deriving DecidableEq

namespace Severity

def label : Severity → String
  | error => "ERROR"
  | warn => "WARN"
  | info => "INFO"
  | debug => "DEBUG"
  | trace => "TRACE"

/-- Higher ranks are less severe. -/
def rank : Severity → Nat
  | error => 1
  | warn => 2
  | info => 3
  | debug => 4
  | trace => 5

end Severity

structure Note where
  severity : Severity
  origin : String
  message : String
  /-- The names of the values that are told beside the message. -/
  values : List String
  /-- An activity of the same part of the program. -/
  activity : Option String
deriving DecidableEq

namespace Note

def isWarning (n : Note) : Bool := n.severity == .warn

/-- Whether a value of this name is told; the message is one of the values. -/
def tells (n : Note) (name : String) : Bool := name == "message" || n.values.contains name

end Note

end MeshWatch
