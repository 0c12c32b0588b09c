/-!
# Log events

What the library reports while it works.  Events are values: each operation
returns those it raised, in order.
-/

namespace ShaderPipeline

/-- How important an event is, from the least to the most. -/
inductive LogLevel where
  | trace
  | debug
  | info
  | warn
  | error
deriving Repr, DecidableEq

namespace LogLevel

/-- The rank of a level; a more important level ranks higher. -/
def rank : LogLevel → Nat
  | .trace => 0
  | .debug => 1
  | .info => 2
  | .warn => 3
  | .error => 4

/-- The name of a level as event lists show it. -/
def label : LogLevel → String
  | .trace => "TRACE"
  | .debug => "DEBUG"
  | .info => "INFO"
  | .warn => "WARN"
  | .error => "ERROR"

end LogLevel

structure LogEvent where
  level : LogLevel
  message : String
deriving Repr, DecidableEq

/-- Which events are shown. -/
inductive LogFilter where
  | off
  /-- Those that are at least as important as a level. -/
  | atLeast (level : LogLevel)
deriving Repr, DecidableEq

namespace LogFilter

def shows : LogFilter → LogEvent → Bool
  | .off, _ => false
  | .atLeast level, event => level.rank ≤ event.level.rank

/-- The events that are shown, in order. -/
def apply (filter : LogFilter) (events : List LogEvent) : List LogEvent :=
  events.filter filter.shows

end LogFilter

end ShaderPipeline
