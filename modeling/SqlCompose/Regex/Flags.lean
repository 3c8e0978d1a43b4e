import SqlCompose.Text.Blank

/-!
# Flags of regular expressions

Flags say how the rest of a group is read. They are letters; those after a minus sign are unset.
-/

namespace SqlCompose.Regex

/-- How the expressions that follow are read. -/
structure Flags where
  ignoreCase : Bool
  multiLine : Bool
  dotAll : Bool
  /-- Repetitions are greedy if they are marked as not greedy. -/
  swapGreed : Bool
  unicode : Bool
  /-- Lines may end with a return. -/
  returns : Bool
  /-- Blanks and comments are skipped. -/
  spaced : Bool

namespace Flags

def standard : Flags := ⟨false, false, false, false, true, false, false⟩

def set (value : Bool) (flags : Flags) : Char → Option Flags
  | 'i' => some { flags with ignoreCase := value }
  | 'm' => some { flags with multiLine := value }
  | 's' => some { flags with dotAll := value }
  | 'U' => some { flags with swapGreed := value }
  | 'u' => some { flags with unicode := value }
  | 'R' => some { flags with returns := value }
  | 'x' => some { flags with spaced := value }
  | _ => none

/-- Read flags up to a colon or a closing parenthesis, which is given, too. No letter may stand
twice, nor may the minus sign, and a letter has to follow it. -/
def read? (flags : Flags) (s : List Char) : Option (Flags × Char × List Char) :=
  let (letters, rest) := s.span fun c => c != ':' && c != ')'
  let (setting, unsetting) := letters.span (· != '-')
  match rest with
  | [] => none
  | closing :: rest =>
    if letters.eraseDups.length < letters.length || letters.getLast? == some '-' then none
    else if letters.isEmpty && closing == ')' then none
    else do
      let flags ← setting.foldlM (set true) flags
      let flags ← (unsetting.drop 1).foldlM (set false) flags
      some (flags, closing, rest)

/-- Skip blanks and comments, if they are to be skipped. A comment starts with a hash sign and ends
with the line. -/
def skip (flags : Flags) (s : List Char) : List Char :=
  if flags.spaced then skipFrom false s else s
where
  /-- Skip blanks and comments, possibly in a comment already. -/
  skipFrom (comment : Bool) : List Char → List Char
    | [] => []
    | c :: rest =>
      if comment then skipFrom (c != '\n') rest
      else if c == '#' then skipFrom true rest
      else if isBlank c then skipFrom false rest
      else c :: rest

end Flags

end SqlCompose.Regex
