import JuryCaptions.Json.Basic
/-!
Log records.

Components report what happened as records with a level, a message and
attributes in the order they were given. The records are part of what a
component returns, so that callers decide where they go.
-/

namespace JuryCaptions

inductive Level where
  | debug
  | info
  | warn
  | error
  deriving Repr, BEq, DecidableEq, Inhabited

namespace Level

def name : Level → String
  | .debug => "DEBUG"
  | .info => "INFO"
  | .warn => "WARN"
  | .error => "ERROR"

def rank : Level → Nat
  | .debug => 0
  | .info => 1
  | .warn => 2
  | .error => 3

end Level

/-- One log record: level, message and attributes as key and value. -/
structure LogRecord where
  level : Level
  msg : String
  attrs : List (String × Json) := []
  deriving Repr, BEq, Inhabited

def LogRecord.atLeast (lvl : Level) (rs : List LogRecord) : List LogRecord :=
  rs.filter fun r => lvl.rank ≤ r.level.rank

end JuryCaptions
