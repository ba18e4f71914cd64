import MeshWatch.Saved
import MeshWatch.Toml.Document

/-!
# Monitor settings

How often the engine is asked and how long a fetch may take. Both numbers are kept as they are
given; an interval of nothing counts as one millisecond.
-/
namespace MeshWatch.Monitor

structure Config where
  pollIntervalMs : UInt64
  snapshotTimeoutSecs : UInt64
deriving DecidableEq

namespace Config

def standard : Config := ⟨2000, 10⟩

def write (c : Config) : Data :=
  .record [("poll_interval_ms", Saved.write c.pollIntervalMs),
    ("snapshot_timeout_secs", Saved.write c.snapshotTimeoutSecs)]

def read : Data.Reader Config :=
  .record "monitor settings" (mk <$> Saved.fieldOr "poll_interval_ms" standard.pollIntervalMs <*>
    Saved.fieldOr "snapshot_timeout_secs" standard.snapshotTimeoutSecs)

instance : Saved Config := ⟨write, read⟩

/-- The settings of a TOML document. -/
def ofToml? (s : String) : Option Config := do
  let document ← Toml.document? s
  (read document).toOption

/-- An interval in microseconds, cut to whole milliseconds. -/
def withPollInterval (c : Config) (microseconds : Nat) : Config :=
  { c with pollIntervalMs := .ofNat (microseconds / 1000) }

/-- A timeout in milliseconds, cut to whole seconds. -/
def withSnapshotTimeout (c : Config) (milliseconds : Nat) : Config :=
  { c with snapshotTimeoutSecs := .ofNat (milliseconds / 1000) }

/-- The time between two polls, in milliseconds. -/
def period (c : Config) : Nat := max c.pollIntervalMs.toNat 1

def timeoutMs (c : Config) : Nat := c.snapshotTimeoutSecs.toNat * 1000

end Config

end MeshWatch.Monitor
