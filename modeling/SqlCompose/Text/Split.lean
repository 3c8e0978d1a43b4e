/-!
# Cutting and replacing text

Texts are cut at a separator character, or at the first or last place where a pattern stands, and a
pattern is replaced wherever it stands, from left to right and without overlaps.
-/

namespace SqlCompose

namespace Chars

/-- The pieces between the separators; there is always one piece more than there are separators. -/
def split (sep : Char) : List Char → List (List Char)
  | [] => [[]]
  | c :: rest =>
    if c = sep then [] :: split sep rest
    else match split sep rest with
      | [] => [[c]]
      | piece :: pieces => (c :: piece) :: pieces

/-- What stands before and after the first place of `pattern`. -/
def splitFirst (pattern : List Char) : List Char → Option (List Char × List Char)
  | [] => if pattern.isEmpty then some ([], []) else none
  | c :: rest =>
    if pattern.isPrefixOf (c :: rest) then some ([], (c :: rest).drop pattern.length)
    else (splitFirst pattern rest).map fun (before, after) => (c :: before, after)

/-- What stands before and after the last place of `pattern`. -/
def splitLast (pattern : List Char) : List Char → Option (List Char × List Char)
  | [] => if pattern.isEmpty then some ([], []) else none
  | c :: rest =>
    match splitLast pattern rest with
    | some (before, after) => some (c :: before, after)
    | none =>
      if pattern.isPrefixOf (c :: rest) then some ([], (c :: rest).drop pattern.length) else none

def contains (pattern s : List Char) : Bool := (splitFirst pattern s).isSome

/-- Replace `pattern`, where `skip` characters still belong to a place already replaced. -/
def replaceFrom (pattern replacement : List Char) : Nat → List Char → List Char
  | _, [] => []
  | skip + 1, _ :: rest => replaceFrom pattern replacement skip rest
  | 0, c :: rest =>
    if pattern.isPrefixOf (c :: rest) then
      replacement ++ replaceFrom pattern replacement (pattern.length - 1) rest
    else c :: replaceFrom pattern replacement 0 rest

/-- Put `replacement` wherever the non-empty `pattern` stands. -/
def replace (pattern replacement s : List Char) : List Char :=
  replaceFrom pattern replacement 0 s

def replaceChar (old : Char) (replacement s : List Char) : List Char :=
  s.flatMap fun c => if c = old then replacement else [c]

end Chars

namespace Text

def split (sep : Char) (s : String) : List String := (Chars.split sep s.toList).map .ofList

def splitFirst (pattern s : String) : Option (String × String) :=
  (Chars.splitFirst pattern.toList s.toList).map fun (a, b) => (.ofList a, .ofList b)

def splitLast (pattern s : String) : Option (String × String) :=
  (Chars.splitLast pattern.toList s.toList).map fun (a, b) => (.ofList a, .ofList b)

def contains (pattern s : String) : Bool := Chars.contains pattern.toList s.toList

def replace (pattern replacement s : String) : String :=
  .ofList (Chars.replace pattern.toList replacement.toList s.toList)

def replaceChar (old : Char) (replacement s : String) : String :=
  .ofList (Chars.replaceChar old replacement.toList s.toList)

/-- The parts with the separator between neighbours. -/
def join (sep : String) (parts : List String) : String := String.intercalate sep parts

end Text

end SqlCompose
