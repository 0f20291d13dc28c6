/-!
Notes that a run leaves for its operator.
-/

namespace CmsTypings.Log

inductive Level where
  | error | warn | info | debug | trace
deriving DecidableEq, Repr

/-- The coarser a level, the higher its rank. -/
def Level.rank : Level → Nat
  | .error => 5
  | .warn => 4
  | .info => 3
  | .debug => 2
  | .trace => 1

def Level.name : Level → String
  | .error => "ERROR"
  | .warn => "WARN"
  | .info => "INFO"
  | .debug => "DEBUG"
  | .trace => "TRACE"

/-- A note; `topic` is the part of the program that it comes from, from the whole to the part. -/
structure Note where
  level : Level
  topic : List String
  message : String
deriving DecidableEq, Repr

end CmsTypings.Log
