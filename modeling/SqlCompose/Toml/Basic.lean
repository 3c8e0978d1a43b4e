/-!
# Configuration documents

The values of a TOML document. A table remembers how it came about, because that decides what may
still be added to it: a table in braces is closed, one with a header of its own has no second
header, and one that dotted keys made takes further dotted keys but no header.
-/

namespace SqlCompose

/-- How a table came about. -/
inductive Toml.Origin
  /-- Written in braces. -/
  | braces
  /-- Named by a header. -/
  | header
  /-- On the way to a table named by a header. -/
  | path
  /-- On the way to a key with dots. -/
  | dots
  deriving DecidableEq

/-- A value of a document. What is neither text, truth value nor container keeps its spelling. -/
inductive Toml
  | string (s : String)
  | boolean (b : Bool)
  | number (spelling : String)
  | moment (spelling : String)
  /-- Headers in double brackets add to an array that they made. -/
  | array (byHeaders : Bool) (items : List Toml)
  | table (origin : Toml.Origin) (entries : List (String × Toml))

namespace Toml

/-- The entries of a table. -/
abbrev Entries := List (String × Toml)

def replaceEntry (key : String) (value : Toml) (entries : Entries) : Entries :=
  entries.map fun (other, old) => (other, if other = key then value else old)

/-- Add a new key; a key is not given twice. -/
def addEntry (key : String) (value : Toml) (entries : Entries) : Option Entries :=
  if (entries.lookup key).isSome then none else some (entries ++ [(key, value)])

/-- Set a value under a key with dots. -/
def setDotted (value : Toml) : List String → Entries → Option Entries
  | [], _ => none
  | [key], entries => addEntry key value entries
  | key :: keys, entries =>
    match entries.lookup key with
    | none => (setDotted value keys []).map fun inner => entries ++ [(key, .table .dots inner)]
    | some (.table .dots inner) =>
      (setDotted value keys inner).map fun inner => replaceEntry key (.table .dots inner) entries
    | some (.table .path inner) =>
      (setDotted value keys inner).map fun inner => replaceEntry key (.table .path inner) entries
    | some _ => none

/-- Change the table that a header path leads to; of an array made by headers it is the last one.
Missing tables are made on the way. -/
def changeAt (change : Entries → Option Entries) : List String → Entries → Option Entries
  | [], entries => change entries
  | key :: keys, entries =>
    match entries.lookup key with
    | none => (changeAt change keys []).map fun inner => entries ++ [(key, .table .path inner)]
    | some (.table .braces _) => none
    | some (.table origin inner) =>
      (changeAt change keys inner).map fun inner => replaceEntry key (.table origin inner) entries
    | some (.array true items) =>
      match items.reverse with
      | .table origin inner :: before =>
        (changeAt change keys inner).map fun inner =>
          replaceEntry key (.array true (.table origin inner :: before).reverse) entries
      | _ => none
    | some _ => none

/-- Name a table by a header. -/
def openTable (key : String) (entries : Entries) : Option Entries :=
  match entries.lookup key with
  | none => some (entries ++ [(key, .table .header [])])
  | some (.table .path inner) => some (replaceEntry key (.table .header inner) entries)
  | some _ => none

/-- Add a table to an array by a header in double brackets. -/
def openItem (key : String) (entries : Entries) : Option Entries :=
  match entries.lookup key with
  | none => some (entries ++ [(key, .array true [.table .header []])])
  | some (.array true items) =>
    some (replaceEntry key (.array true (items ++ [.table .header []])) entries)
  | some _ => none

end Toml

end SqlCompose
