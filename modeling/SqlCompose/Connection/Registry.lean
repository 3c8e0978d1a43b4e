import SqlCompose.Config.Basic
import SqlCompose.Connection.Basic

/-!
# Named connections

A registry of connections by name, with one of them as the default.
-/

namespace SqlCompose

/-- Connections by name. -/
structure ConnectionRegistry where
  connections : OrderedMap Connection
  defaultName : Option String

namespace ConnectionRegistry

def empty : ConnectionRegistry := ⟨.empty, none⟩

/-- Register a connection. The first one that is registered becomes the default. -/
def register (r : ConnectionRegistry) (name : String) (c : Connection) : ConnectionRegistry :=
  { connections := r.connections.insert name c, defaultName := r.defaultName.or (some name) }

def contains (r : ConnectionRegistry) (name : String) : Bool := r.connections.contains name

/-- Make a registered connection the default. -/
def setDefault (r : ConnectionRegistry) (name : String) : Outcome ConnectionRegistry :=
  if r.contains name then .ok { r with defaultName := some name }
  else .error (.unknownConnection name)

def get (r : ConnectionRegistry) (name : String) : Outcome Connection :=
  match r.connections.get? name with
  | some c => .ok c
  | none => .error (.unknownConnection name)

def defaultConnection (r : ConnectionRegistry) : Outcome Connection :=
  match r.defaultName with
  | some name => r.get name
  | none => .error (.unknownConnection "<default>")

def names (r : ConnectionRegistry) : List String := r.connections.keys

def size (r : ConnectionRegistry) : Nat := r.connections.size

def isEmpty (r : ConnectionRegistry) : Bool := r.connections.isEmpty

/-- Open some configured connections, in their order. -/
def openAll (opener : String → ConnectionConfig → Dialect → Outcome Connection)
    (connections : OrderedMap Connection) :
    List (String × ConnectionConfig) → Outcome (OrderedMap Connection)
  | [] => .ok connections
  | (name, config) :: rest => do
    let d ← config.dialect
    let c ← opener name config d
    openAll opener (connections.insert name c) rest

/-- Open every connection of a configuration. -/
def ofConfig (config : DatabaseConfig)
    (opener : String → ConnectionConfig → Dialect → Outcome Connection) :
    Outcome ConnectionRegistry := do
  config.validate
  let connections ← openAll opener .empty config.connections
  return { connections, defaultName := some config.defaultName }

end ConnectionRegistry

end SqlCompose
