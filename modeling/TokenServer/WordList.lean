/-!
Word lists hold the names that travel as one text field: scopes and grant types. Order and repeats
are kept. A field is written with single spaces (`WordList.render`) and read leniently
(`WordList.parse`).
-/

namespace TokenServer

/-- Names in the order in which they were given. -/
abbrev WordList := List String

namespace WordList

/-- The non-empty pieces of a text between characters that separate. -/
def pieces (separates : Char → Bool) (text : String) : WordList :=
  ((text.toList.splitOnP separates).filter (!·.isEmpty)).map String.ofList

/-- Reads names parted by spaces or commas. -/
def parse (text : String) : WordList := pieces (fun c => c == ' ' || c == ',') text

/-- Reads names parted by spaces alone, so that a name may hold a comma. -/
def parseSpaced (text : String) : WordList := pieces (· == ' ') text

def render (words : WordList) : String := " ".intercalate words

def hasAll (words names : WordList) : Bool := names.all (words.contains ·)

/-- The list is the one name and nothing else. -/
def isExactly (words : WordList) (name : String) : Bool := words == [name]

/-- Adds a name unless the list holds it already. -/
def grant (words : WordList) (name : String) : WordList :=
  if words.contains name then words else words ++ [name]

def grantAll (words names : WordList) : WordList := names.foldl grant words

end WordList

end TokenServer
