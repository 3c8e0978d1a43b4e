import Std.Data.HashMap

/-!
# Memos of limited size

A memo notes a number for each of some keys, which are lists of numbers. It has a limited number of
slots, so that it forgets a key when another one with the same slot is noted; what it tells is what
was noted last for the key.
-/

namespace SqlCompose

/-- A memo: how many slots it has, and the keys and their numbers in the slots that are taken. -/
structure Memo where
  capacity : Nat
  slots : Std.HashMap Nat (List Nat × Nat)

namespace Memo

def empty (capacity : Nat) : Memo := ⟨capacity, ∅⟩

/-- The slot of a key. The numbers of the key are mixed in one after the other. -/
def slot (m : Memo) (key : List Nat) : Nat :=
  let mixed := key.foldl (fun mixed n => (mixed ^^^ n.toUInt64) * 0x100000001B3)
    (0xCBF29CE484222325 : UInt64)
  mixed.toNat % m.capacity

/-- The number of a key, if the memo tells. -/
def find? (m : Memo) (key : List Nat) : Option Nat :=
  match m.slots[m.slot key]? with
  | some (noted, n) => if noted = key then some n else none
  | none => none

/-- Note the number of a key. -/
def note (m : Memo) (key : List Nat) (n : Nat) : Memo :=
  { m with slots := m.slots.insert (m.slot key) (key, n) }

end Memo

end SqlCompose
