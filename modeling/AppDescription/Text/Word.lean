import AppDescription.Text.Basic
import AppDescription.Text.WordRuns

namespace AppDescription

/-- The characters of names: letters, numerals of every script, and the underscore. -/
def isWord (c : Char) : Bool :=
  c.isAlphanum || c = '_' || inRuns wordRuns c.toNat

namespace Text

/-- The word characters a text starts with, possibly none. -/
def wordRun (text : Text) : Text :=
  text.takeWhile isWord

/-- What follows the word characters a text starts with. -/
def afterWord (text : Text) : Text :=
  text.dropWhile isWord

/-- The nonempty word a text starts with, together with what follows it. -/
def word? (text : Text) : Option (Text × Text) :=
  if (wordRun text).isEmpty then none else some (wordRun text, afterWord text)

end Text

end AppDescription
