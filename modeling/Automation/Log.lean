/-!
# Log lines

What the program reports while it works: a level, the component that speaks, and a message.

## Main definitions

* `LogLevel`, `LogEntry` — a reported line.
* `LogEntry.line` — its text.
* `LogEntry.atLeast` — the entries from a level up.
-/

namespace Automation

/-- How serious a log line is, in ascending order. -/
inductive LogLevel where
  | info
  | warning
  | error
  deriving DecidableEq, Repr

namespace LogLevel

def name : LogLevel → String
  | .info => "INFO"
  | .warning => "WARNING"
  | .error => "ERROR"

def rank : LogLevel → Nat
  | .info => 0
  | .warning => 1
  | .error => 2

end LogLevel

/-- One reported line. -/
structure LogEntry where
  level : LogLevel
  component : String
  message : String
  deriving DecidableEq, Repr

namespace LogEntry

def info (component message : String) : LogEntry := ⟨.info, component, message⟩

def warning (component message : String) : LogEntry := ⟨.warning, component, message⟩

def error (component message : String) : LogEntry := ⟨.error, component, message⟩

/-- The text of a log line. -/
def line (entry : LogEntry) : String :=
  entry.level.name ++ " " ++ entry.component ++ ": " ++ entry.message

/-- The entries from a level up. -/
def atLeast (level : LogLevel) (entries : List LogEntry) : List LogEntry :=
  entries.filter fun entry => level.rank ≤ entry.level.rank

end LogEntry

end Automation
