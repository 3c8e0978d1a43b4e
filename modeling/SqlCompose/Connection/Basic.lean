import SqlCompose.Dialect.PseudoSyntax
import SqlCompose.Statement
import SqlCompose.Trace

/-!
# Connections and commands

A connection is what is known of a database before anything is sent to it. A command is a statement
for a connection. Sending is left to whoever holds the database: a `Request` says what is to be
sent, what is reported, and how the answer is read.
-/

namespace SqlCompose

/-- What is known of a database. -/
structure Connection where
  dialect : Dialect
  /-- Stands for the percent sign in pseudo-syntax. -/
  tablePrefix : String
  schema : Option SchemaRegistry
  inlineValues : Bool

namespace Connection

def builder (c : Connection) : Builder :=
  { dialect := c.dialect, schema := c.schema, inlineValues := c.inlineValues }

def quoteSql (c : Connection) (sql : String) : String := c.dialect.quoteSql c.tablePrefix sql

end Connection

/-- Whether a statement changes or asks. -/
inductive Operation
  | execute
  | query
  deriving DecidableEq

def Operation.name : Operation → String
  | .execute => "execute"
  | .query => "query"

/-- A statement as it is sent. -/
structure Call where
  operation : Operation
  sql : String
  params : Params
  deriving DecidableEq

/-- A statement to be sent, the events that go before it, and the reading of the answer. -/
structure Request (Answer Result : Type) where
  events : List Event
  call : Call
  read : Answer → Outcome Result

namespace Request

variable {Answer Result Other : Type}

/-- Read the answer further. -/
def map (f : Result → Other) (r : Request Answer Result) : Request Answer Other :=
  { events := r.events, call := r.call, read := fun a => (r.read a).map f }

/-- Report something before everything else. -/
def reporting (e : Event) (r : Request Answer Result) : Request Answer Result :=
  { r with events := e :: r.events }

end Request

def firstCell? (row : Row) : Option Value := row.values.head?

/-- A statement for a connection. -/
structure Command where
  connection : Connection
  /-- The text before pseudo-syntax is resolved. -/
  source : String
  params : Params

namespace Command

def new (c : Connection) (sql : String) : Command := ⟨c, sql, ∅⟩

def ofBuilt (c : Connection) (b : Built) : Command := ⟨c, b.sql, b.allParams⟩

def withParams (cmd : Command) (params : Params) : Command :=
  { cmd with params := cmd.params.extend params }

def bind (cmd : Command) (name : String) (v : Value) : Command :=
  { cmd with params := cmd.params.insert name v }

/-- The text as it is sent. -/
def sql (cmd : Command) : String := cmd.connection.quoteSql cmd.source

/-- The parameters, those with longer names first. -/
def paramsByLength (cmd : Command) : List (String × Value) :=
  cmd.params.toList.mergeSort fun a b => decide (b.1.utf8ByteSize ≤ a.1.utf8ByteSize)

/-- The text with literals for the parameters, for reports only. Longer names are replaced first, so
a name is not taken for the start of a longer one. -/
def rawSql (cmd : Command) : String :=
  cmd.paramsByLength.foldl
    (fun sql (name, v) => Text.replace name (cmd.connection.dialect.literal v) sql) cmd.sql

/-- Send a command as one operation. -/
def request {Answer : Type} (cmd : Command) (operation : Operation) : Request Answer Answer :=
  { events := [SqlTracer.default.event cmd.connection.dialect.name operation.name cmd.sql
      cmd.params.size]
    call := ⟨operation, cmd.sql, cmd.params⟩
    read := .ok }

def execute (cmd : Command) : Request Nat Nat := cmd.request .execute

def all (cmd : Command) : Request (List Row) (List Row) := cmd.request .query

def one (cmd : Command) : Request (List Row) (Option Row) := cmd.all.map List.head?

def scalar (cmd : Command) : Request (List Row) (Option Value) :=
  cmd.one.map fun row => row.bind firstCell?

def column (cmd : Command) : Request (List Row) (List Value) :=
  cmd.all.map fun rows => rows.filterMap firstCell?

end Command

end SqlCompose
