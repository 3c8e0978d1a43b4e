import SqlCompose.Text.Boundary

/-!
# Log events

A written statement and a statement sent to a connection are each reported by one event. The text of
a sent statement may be cut to a number of bytes; it is never cut inside a character.
-/

namespace SqlCompose

/-- The weight of an event. -/
inductive Level
  | error
  | warn
  | info
  | debug
  | trace
  deriving DecidableEq

def Level.name : Level → String
  | .error => "ERROR"
  | .warn => "WARN"
  | .info => "INFO"
  | .debug => "DEBUG"
  | .trace => "TRACE"

/-- The value of a field of an event. -/
inductive FieldValue
  | text (s : String)
  | number (n : Nat)
  deriving DecidableEq

structure Event where
  target : String
  level : Level
  fields : List (String × FieldValue)
  deriving DecidableEq

/-- The event of a written statement. -/
def Event.built (dialect : String) (paramCount : Nat) (sql : String) : Event :=
  { target := "polyquery.build", level := .trace
    fields := [("message", .text "built statement"), ("dialect", .text dialect),
      ("param_count", .number paramCount), ("sql", .text sql)] }

/-- How statements that are sent are reported. -/
structure SqlTracer where
  level : Level
  /-- The number of bytes after which a text is cut. -/
  maxLength : Option Nat

namespace SqlTracer

/-- Reports at the debug level, of at most two hundred bytes. -/
def default : SqlTracer := { level := .debug, maxLength := some 200 }

/-- A text that is cut where it is too long, with dots for what is missing. -/
def truncate (t : SqlTracer) (sql : String) : String :=
  match t.maxLength with
  | some most => if most < sql.utf8ByteSize then Text.truncateBytes sql most ++ "..." else sql
  | none => sql

/-- The event of a statement that is about to be sent. -/
def event (t : SqlTracer) (dialect operation sql : String) (paramCount : Nat) : Event :=
  { target := "polyquery.sql", level := t.level
    fields := [("dialect", .text dialect), ("operation", .text operation),
      ("param_count", .number paramCount), ("sql", .text (t.truncate sql))] }

end SqlTracer

end SqlCompose
