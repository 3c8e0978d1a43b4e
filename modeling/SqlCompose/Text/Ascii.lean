/-!
# Letter case

Keywords are compared without regard to the case of the twenty-six basic Latin letters; every other
character stands only for itself. Where a keyword is looked for inside a text, the long s counts as
an s.
-/

namespace SqlCompose.Text

def toLower (s : String) : String := .ofList (s.toList.map Char.toLower)

def toUpper (s : String) : String := .ofList (s.toList.map Char.toUpper)

/-- Whether two texts differ at most in the case of basic Latin letters. -/
def equalsIgnoringCase (s t : String) : Bool := toLower s == toLower t

/-- The small letter of a keyword that a character is a case variant of, else the character. Only
the letter s has a variant that is no basic Latin letter. -/
def foldChar (c : Char) : Char := if c = 'ſ' then 's' else c.toLower

/-- Whether a text is a keyword of small letters up to the case of its letters. -/
def isKeyword (keyword : String) (s : List Char) : Bool := s.map foldChar == keyword.toList

end SqlCompose.Text
