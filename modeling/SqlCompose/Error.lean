/-!
# Errors

What can go wrong while a statement is described, written or run.
-/

namespace SqlCompose

/-- Why a statement was not written, or not run. -/
inductive QueryError
  /-- An operator is not known, or has operands it cannot take. -/
  | malformedCondition (message : String)
  /-- A text that should hold a condition is not a document. -/
  | unreadableCondition
  /-- The dialect cannot express a feature. -/
  | notSupported (dialect feature : String)
  /-- No dialect writes an operator of the vocabulary. -/
  | notImplemented (message : String)
  /-- A row of a batch is wider or narrower than the list of columns. -/
  | batchInsertMismatch (row expected actual : Nat)
  /-- A lookup was given a value that it cannot take. -/
  | invalidLookupValue (lookup message : String)
  /-- A text that should hold a regular expression is none. -/
  | unreadablePattern
  /-- A statement has a shape that no dialect writes. -/
  | validation (message : String)
  /-- No connection has this name. -/
  | unknownConnection (name : String)
  /-- The connection reported an error. -/
  | execution (message : String)
  /-- The description of a table cannot be understood. -/
  | schema (message : String)
  /-- The configuration is not usable. -/
  | config (message : String)
  /-- A text that should hold a configuration is no such document. -/
  | unreadableConfig
  deriving DecidableEq

namespace QueryError

def message : QueryError → String
  | .malformedCondition message => "Malformed condition: " ++ message
  | .unreadableCondition => "Malformed condition: not a document"
  | .notSupported dialect feature =>
    feature ++ " is not supported by the " ++ dialect ++ " dialect"
  | .notImplemented message => "Not implemented: " ++ message
  | .batchInsertMismatch row expected actual =>
    "Batch insert row " ++ toString row ++ " has " ++ toString actual ++ " values, expected " ++
      toString expected
  | .invalidLookupValue lookup message =>
    "Invalid value for lookup '" ++ lookup ++ "': " ++ message
  | .unreadablePattern => "Invalid value for lookup 'regex': not a regular expression"
  | .validation message => "Validation error: " ++ message
  | .unknownConnection name => "Unknown connection: " ++ name
  | .execution message => "Execution error: " ++ message
  | .schema message => "Schema error: " ++ message
  | .config message => "Config error: " ++ message
  | .unreadableConfig => "Config error: not a configuration"

def isMalformed : QueryError → Bool
  | .malformedCondition _ | .unreadableCondition => true
  | _ => false

def isNotSupported : QueryError → Bool
  | .notSupported .. => true
  | _ => false

def isNotImplemented : QueryError → Bool
  | .notImplemented _ => true
  | _ => false

end QueryError

/-- The result of something that may fail with a `QueryError`. -/
abbrev Outcome := Except QueryError

end SqlCompose
