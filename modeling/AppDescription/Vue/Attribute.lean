import AppDescription.Document.Properties
import AppDescription.Vue.Expression

namespace AppDescription.Vue

structure Attribute where
  name : Text
  value : Text
  deriving Repr, DecidableEq

namespace Attribute

def text (self : Attribute) : Text :=
  self.name ++ "=\"" ++ self.value ++ "\""

end Attribute

/-- Whether a value has to be evaluated. -/
def isDynamic (value : Text) : Bool :=
  value.contains '.' || value.contains '(' || value.contains '+'

def isQuote (c : Char) : Bool :=
  c = '"' || c = '\''

/-- Removes all quotes at both ends. -/
def trimQuotes (value : Text) : Text :=
  ((value.dropWhile isQuote).reverse.dropWhile isQuote).reverse

/-- A static quoted value without its first and last character; any other is interpolated. -/
def contentOf (value : Text) : Text :=
  if !isDynamic value && value.head?.any isQuote then (value.drop 1).dropLast
  else Text.braced (Text.braced (" " ++ value ++ " "))

/-- The attribute that a property turns into. Most have none. -/
def attribute? (key value : Text) : Option Attribute :=
  if key = "active".toList then some ⟨":class", Text.braced (" active: " ++ toCondition value ++ " ")⟩
  else if key = "src".toList then some ⟨if value.contains '.' then ":src" else "src", value⟩
  else if key = "icon".toList then
    if value.contains '?' || value.contains '.' then some ⟨":data-icon", value⟩
    else some ⟨"data-icon", trimQuotes value⟩
  else none

def attributes (properties : Properties) : List Attribute :=
  properties.filterMap fun entry => attribute? entry.1 entry.2

/-- The text inside an element comes from the last `text` or `label`. -/
def content? (properties : Properties) : Option Text :=
  let written := properties.filter fun entry =>
    entry.1 = "text".toList || entry.1 = "label".toList
  written.getLast?.map fun entry => contentOf entry.2

end AppDescription.Vue
