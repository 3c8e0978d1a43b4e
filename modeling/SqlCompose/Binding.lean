import SqlCompose.Dialect.Quoting
import SqlCompose.Fragment.Basic

/-!
# Placing the values of a fragment

A fragment becomes text piece by piece. With binding, the value of a slot gets a placeholder of its
own and goes into the parameters; inline, it stands in the text as a literal. Parameters that a
fragment supplies are taken over as they are. A placeholder never takes a name that is bound or
reserved, so it never takes one that the caller uses.
-/

namespace SqlCompose

/-- What has been bound so far, and how the next value is placed. -/
structure Binding where
  dialect : Dialect
  inline : Bool
  counter : Nat
  params : Params
  /-- Names that no placeholder may take. -/
  reserved : List String

namespace Binding

def start (dialect : Dialect) (inline : Bool) : Binding :=
  { dialect, inline, counter := 0, params := ∅, reserved := [] }

/-- The letters and digits of a hint, or a letter where it has none. -/
def base (hint : String) : String :=
  match hint.toList.filter Char.isAlphanum with
  | [] => "p"
  | chars => .ofList chars

/-- The placeholder of a base and a number. -/
def placeholder (base : String) (n : Nat) : String := ":" ++ base ++ toString n

def isTaken (b : Binding) (name : String) : Bool :=
  b.params.names.contains name || b.reserved.contains name

/-- The first number after `n` whose placeholder is not taken, looked for in so many rounds. -/
def freeNumber (taken : String → Bool) (base : String) : (rounds n : Nat) → Nat
  | 0, n => n + 1
  | rounds + 1, n =>
    if taken (placeholder base (n + 1)) then freeNumber taken base rounds (n + 1) else n + 1

/-- The number of the next placeholder. There are fewer taken names than rounds. -/
def nextNumber (b : Binding) (hint : String) : Nat :=
  freeNumber b.isTaken (base hint) (b.params.size + b.reserved.length) b.counter

def boundValue (d : Dialect) : Value → Value
  | .bool b => d.boolValue b
  | v => v

/-- Place a value: the text that stands for it, and what is bound then. -/
def bind (b : Binding) (hint : String) (v : Value) : String × Binding :=
  if b.inline then (b.dialect.literal v, b)
  else
    let n := b.nextNumber hint
    let name := placeholder (base hint) n
    (name, { b with counter := n, params := b.params.insert name (boundValue b.dialect v) })

def merge (b : Binding) (params : Params) : Binding := { b with params := b.params.extend params }

def reserve (b : Binding) (names : List String) : Binding :=
  { b with reserved := b.reserved ++ names }

/-- Place the values of a fragment: its text, unless it refuses something, and what is bound then.
What was bound before a refusal stays bound. -/
def write (b : Binding) : Fragment → Outcome String × Binding
  | [] => (.ok "", b)
  | .text s :: rest =>
    let (text, b) := b.write rest
    (text.map (s ++ ·), b)
  | .slot hint v :: rest =>
    let (s, b) := b.bind hint v
    let (text, b) := b.write rest
    (text.map (s ++ ·), b)
  | .supply params :: rest => (b.merge params).write rest
  | .refusal e :: _ => (.error e, b)

end Binding

end SqlCompose
