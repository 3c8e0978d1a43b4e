import SqlCompose.Text.Blank
import SqlCompose.Text.Word
import SqlCompose.Text.Ascii

/-!
# Lists written as text

A list of columns or tables may be written as one text. Its parts stand between the commas that are
outside of all parentheses; a closing parenthesis without an opening one is an ordinary character.
Blanks around a part do not belong to it, and an empty part is none.

An item of such a list may end with an alias or a direction, after blanks.
-/

namespace SqlCompose.ListText

/-- The depth of parentheses after a character. -/
def depthAfter (depth : Nat) (c : Char) : Nat :=
  if c = '(' then depth + 1 else if c = ')' then depth - 1 else depth

/-- Cut a text at the commas at depth zero, where `depth` parentheses are open at its start. -/
def cut (depth : Nat) : List Char → List (List Char)
  | [] => [[]]
  | c :: rest =>
    if c = ',' ∧ depth = 0 then [] :: cut depth rest
    else match cut (depthAfter depth c) rest with
      | [] => [[c]]
      | part :: parts => (c :: part) :: parts

/-- The parts of a list. -/
def parts (s : String) : List String :=
  (((cut 0 s.toList).map Chars.trim).filter (!·.isEmpty)).map .ofList

/-- What stands before the last run of blanks, and the word after it. -/
def splitLastWord? (s : List Char) : Option (List Char × List Char) :=
  let (word, rest) := s.reverse.span (!isBlank ·)
  if rest.isEmpty then none else some ((rest.dropWhile isBlank).reverse, word.reverse)

/-- Whether a word may be the alias of a column. -/
def isColumnAlias (word : List Char) : Bool :=
  !word.isEmpty && word.all (fun c => isWordChar c || c == '-') && !word.all Char.isDigit

/-- Drop the keyword `AS` and the blanks before it from the end of a text. -/
def dropAs (s : List Char) : List Char :=
  match splitLastWord? s with
  | some (before, word) => if Text.isKeyword "as" word then before else s
  | none => s

/-- Split a SELECT item into its expression and its alias. The alias is the last word, with or
without the keyword `AS` before it; the expression is not empty and stands on one line. -/
def columnAlias? (s : List Char) : Option (List Char × List Char) :=
  match splitLastWord? s with
  | some (before, word) =>
    let expr := dropAs before
    if isColumnAlias word && !expr.contains '\n' && !(Chars.trim expr).isEmpty then
      some (Chars.trim expr, word)
    else none
  | none => none

/-- The alias that a text of blanks and words gives, with or without the keyword `AS`: a text
without a space. -/
def aliasAfterBlanks? (s : List Char) : Option (List Char) :=
  let isAlias (s : List Char) : Bool := !s.isEmpty && !s.contains ' '
  let plain := Chars.trimStart s
  let named := Chars.trimStart (plain.drop 2)
  if Text.isKeyword "as" (plain.take 2) && (plain.drop 2).head?.any isBlank && isAlias named then
    some named
  else if isAlias plain then some plain
  else none

/-- Split a table from its alias at the first blank after which an alias stands. The name of the
table is on one line. -/
def tableAlias? : List Char → Option (List Char × List Char)
  | [] => none
  | c :: rest =>
    let further :=
      if c = '\n' then none
      else (tableAlias? rest).map fun (table, label) => (c :: table, label)
    if isBlank c then
      match aliasAfterBlanks? (c :: rest) with
      | some label => some ([], label)
      | none => further
    else further

/-- Split a direction from the end of an ORDER BY item: what stands before it, and whether it is
written as the word for descending in basic Latin letters. -/
def direction? (s : List Char) : Option (List Char × Bool) :=
  match splitLastWord? s with
  | some (before, word) =>
    if (Text.isKeyword "asc" word || Text.isKeyword "desc" word) && !before.contains '\n' then
      some (before, Text.equalsIgnoringCase (.ofList word) "desc")
    else none
  | none => none

end SqlCompose.ListText
