import AppDescription.Binary64.Shortest
import AppDescription.Moment
import AppDescription.Text.Quoted

namespace AppDescription

/-- A value of a TOML document. A table keeps its keys in the order they appeared. -/
inductive TomlValue where
  | text (value : Text)
  | integer (value : Int)
  | boolean (value : Bool)
  | decimal (value : Binary64)
  | moment (value : Moment)
  | array (items : List TomlValue)
  | table (entries : List (Text × TomlValue))
  deriving Repr

abbrev TomlTable := List (Text × TomlValue)

namespace TomlValue

mutual

/-- A value inside an array or a table: texts are quoted and moments constructed there. -/
def nestedDisplay : TomlValue → Text
  | text value => Text.quoted value
  | integer value => Text.ofInt value
  | boolean value => if value then "True" else "False"
  | decimal value => value.text
  | moment value => value.construction
  | array items => "[" ++ itemsDisplay items ++ "]"
  | table entries => Text.braced (entriesDisplay entries)

def itemsDisplay : List TomlValue → Text
  | [] => []
  | [item] => item.nestedDisplay
  | item :: rest => item.nestedDisplay ++ ", " ++ itemsDisplay rest

def entriesDisplay : List (Text × TomlValue) → Text
  | [] => []
  | [(key, value)] => Text.quoted key ++ ": " ++ value.nestedDisplay
  | (key, value) :: rest =>
    Text.quoted key ++ ": " ++ value.nestedDisplay ++ ", " ++ entriesDisplay rest

end

/-- The text that stands for a value in a message. -/
def display : TomlValue → Text
  | text value => value
  | moment value => value.text
  | value => value.nestedDisplay

/-- The most decimal digits that an integer may be read or shown with. -/
def digitLimit : Nat :=
  4300

mutual

/-- Whether a value can be shown: no integer in it has too many digits. -/
def isShowable : TomlValue → Bool
  | integer value => value.natAbs < 10 ^ digitLimit
  | array items => itemsShowable items
  | table entries => entriesShowable entries
  | _ => true

def itemsShowable : List TomlValue → Bool
  | [] => true
  | item :: rest => item.isShowable && itemsShowable rest

def entriesShowable : List (Text × TomlValue) → Bool
  | [] => true
  | (_, value) :: rest => value.isShowable && entriesShowable rest

end

end TomlValue

namespace TomlTable

def get? (table : TomlTable) (key : Text) : Option TomlValue :=
  List.lookup key table

/-- Gives a key a value. A key that is already there keeps its place. -/
def put (table : TomlTable) (key : Text) (value : TomlValue) : TomlTable :=
  match table with
  | [] => [(key, value)]
  | entry :: rest => if entry.1 = key then (key, value) :: rest else entry :: put rest key value

/-- Changes the table a path of keys leads to. Missing tables on the way are made, and the way goes
through the last item of an array when `throughArrays` is set. It ends at any other value. -/
def update (throughArrays : Bool) (change : TomlTable → Option TomlTable) :
    List Text → TomlTable → Option TomlTable
  | [], table => change table
  | key :: path, table =>
    match get? table key with
    | none => (update throughArrays change path []).map fun inner => put table key (.table inner)
    | some (.table inner) =>
      (update throughArrays change path inner).map fun inner => put table key (.table inner)
    | some (.array items) =>
      match throughArrays, items.getLast? with
      | true, some (.table inner) =>
        (update throughArrays change path inner).map fun inner =>
          put table key (.array (items.dropLast ++ [.table inner]))
      | _, _ => none
    | some _ => none

/-- Adds a key that is not there yet. -/
def add (key : Text) (value : TomlValue) (table : TomlTable) : Option TomlTable :=
  match get? table key with
  | some _ => none
  | none => some (put table key value)

/-- Adds an empty table to the array under a key. -/
def addItem (key : Text) (table : TomlTable) : Option TomlTable :=
  match get? table key with
  | none => some (put table key (.array [.table []]))
  | some (.array items) => some (put table key (.array (items ++ [.table []])))
  | some _ => none

end TomlTable

end AppDescription
