/-!
Events: what a build or a parse reports besides its result.
-/

namespace TextTypes

inductive Level
  | warn
  | debug
  | trace
  deriving DecidableEq, Repr

namespace Level

def name : Level → String
  | warn => "WARN"
  | debug => "DEBUG"
  | trace => "TRACE"

/-- Warnings are the most severe. -/
def rank : Level → Nat
  | warn => 0
  | debug => 1
  | trace => 2

end Level

structure Event where
  level : Level
  message : String
  fields : List (String × String) := []
  deriving DecidableEq, Repr

/-- The events at a level or more severe ones. -/
def Event.upTo (level : Level) (events : List Event) : List Event :=
  events.filter (·.level.rank ≤ level.rank)

end TextTypes
