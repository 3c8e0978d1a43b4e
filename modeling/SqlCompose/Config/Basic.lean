import SqlCompose.Config.Environment
import SqlCompose.OrderedMap
import SqlCompose.Text.Blank
import SqlCompose.Text.Split
import SqlCompose.Dialect.Basic
import SqlCompose.Toml.Reader

/-!
# Configuration

Named connections and the name of the one that is used when none is given. A configuration is read
from a document, its references to the environment are resolved, and then it is checked: there is a
connection, the default one is among them, and every data source name tells its dialect.
-/

namespace SqlCompose

/-- What is configured of a connection. -/
structure ConnectionConfig where
  /-- The data source name; what stands before its first colon tells the dialect. -/
  dsn : String
  username : Option String
  password : Option String
  tablePrefix : String
  inlineValues : Bool

namespace ConnectionConfig

def new (dsn : String) : ConnectionConfig :=
  { dsn, username := none, password := none, tablePrefix := "", inlineValues := false }

def dialect (c : ConnectionConfig) : Outcome Dialect :=
  let scheme := match Text.splitFirst ":" c.dsn with
    | some (scheme, _) => Text.trim scheme
    | none => ""
  match Dialect.ofDriver? scheme with
  | some d => .ok d
  | none => .error (.config ("cannot derive a dialect from DSN '" ++ c.dsn ++ "'"))

/-- Resolve the references in a text that may be missing. -/
def expandOption (env : Environment) : Option String → Outcome (Option String)
  | none => .ok none
  | some s => (env.expand s).map some

/-- Resolve the references in the texts of a connection. -/
def expand (env : Environment) (c : ConnectionConfig) : Outcome ConnectionConfig := do
  let dsn ← env.expand c.dsn
  let username ← expandOption env c.username
  let password ← expandOption env c.password
  let tablePrefix ← env.expand c.tablePrefix
  return { c with dsn, username, password, tablePrefix }

end ConnectionConfig

/-- Named connections; they are kept in the order of their names. -/
structure DatabaseConfig where
  defaultName : String
  connections : List (String × ConnectionConfig)

namespace DatabaseConfig

def connection (c : DatabaseConfig) (name : String) : Outcome ConnectionConfig :=
  match c.connections.lookup name with
  | some connection => .ok connection
  | none => .error (.unknownConnection name)

def validateConnection (name : String) (c : ConnectionConfig) : Outcome Unit :=
  if Text.isBlank c.dsn then
    .error (.config ("connections." ++ name ++ ".dsn must not be empty"))
  else c.dialect.map fun _ => ()

def validate (c : DatabaseConfig) : Outcome Unit :=
  if c.connections.isEmpty then
    .error (.config "at least one [connections.<name>] entry is required")
  else if (c.connections.lookup c.defaultName).isNone then
    .error (.config ("default connection '" ++ c.defaultName ++ "' is not configured"))
  else c.connections.forM fun (name, connection) => validateConnection name connection

/-- Resolve the references of all connections. -/
def expand (env : Environment) (c : DatabaseConfig) : Outcome DatabaseConfig := do
  let connections ← c.connections.mapM fun (name, connection) =>
    (connection.expand env).map (name, ·)
  return { c with connections }

/-! ### Documents -/

def text? : Toml → Option String
  | .string s => some s
  | _ => none

def truth? : Toml → Option Bool
  | .boolean b => some b
  | _ => none

/-- Read a value that may be missing. -/
def optional? {α : Type} (read : Toml → Option α) : Option Toml → Option (Option α)
  | none => some none
  | some value => (read value).map some

/-- Read a connection. Its fields may also be given by an array, in their order. -/
def connectionOfToml? (value : Toml) : Option ConnectionConfig := do
  let field (name : String) (position : Nat) : Option Toml := match value with
    | .table _ entries => entries.lookup name
    | .array _ items => items[position]?
    | _ => none
  let dsn ← (field "dsn" 0).bind text?
  let username ← optional? text? (field "username" 1)
  let password ← optional? text? (field "password" 2)
  let tablePrefix ← optional? text? (field "table_prefix" 3)
  let inlineValues ← optional? truth? (field "inline_values" 4)
  return { dsn, username, password, tablePrefix := tablePrefix.getD ""
           inlineValues := inlineValues.getD false }

def connectionsOfToml? : Option Toml → Option (List (String × ConnectionConfig))
  | none => some []
  | some (.table _ entries) =>
    (entries.mapM fun entry => (connectionOfToml? entry.2).map (entry.1, ·)).map fun connections =>
      connections.mergeSort fun a b => !decide (b.1 < a.1)
  | some _ => none

/-- Read a configuration; keys that mean nothing are passed over. -/
def ofToml? (root : Toml.Entries) : Option DatabaseConfig := do
  let defaultName ← optional? text? (root.lookup "default")
  let connections ← connectionsOfToml? (root.lookup "connections")
  return { defaultName := defaultName.getD "db", connections }

/-- Read a configuration from the text of a document, resolve its references and check it. -/
def ofText (env : Environment) (s : String) : Outcome DatabaseConfig :=
  match (Toml.parse? s).bind ofToml? with
  | none => .error .unreadableConfig
  | some config => do
    let config ← config.expand env
    config.validate
    return config

end DatabaseConfig

end SqlCompose
