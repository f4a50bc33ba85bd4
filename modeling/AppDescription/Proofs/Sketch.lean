import AppDescription.Proofs.NodeReading
import AppDescription.Proofs.Row

namespace AppDescription

/-- A property that may be written on a line of its own. -/
structure Assignment where
  key : Word
  value : Phrase
  plain : key.text ∉ elementWords
  inline : value.text ≠ ['|']

namespace Assignment

def entry (setting : Assignment) : Text × Text :=
  (setting.key.text, setting.value.text)

end Assignment

/-- What a display is, apart from its children. Its own name is its property `id`. -/
structure Display where
  kind : Word
  name : Option Word
  settings : List Assignment
  distinct : (settings.map fun setting => setting.key.text).Nodup
  unnamed : name.isSome → "id".toList ∉ settings.map fun setting => setting.key.text

/-- An element that can be laid out as rows. -/
inductive Sketch where
  | display (head : Display) (children : List Sketch)
  | conditional (word : ConditionWord) (condition : Phrase) (body : List Sketch)
      (otherwise : Option (List Sketch))
  | iteration (item : Word) (collection : Phrase) (body : List Sketch)

namespace Display

def properties (head : Display) : Properties :=
  (head.name.map fun name => ("id".toList, name.text)).toList ++ head.settings.map Assignment.entry

def ownName (head : Display) : Text :=
  (head.name.getD head.kind).text

end Display

namespace Sketch

mutual

/-- The element that is sketched. -/
def element : Sketch → Element
  | display head children => .display head.kind.text head.ownName head.properties (elements children)
  | conditional word condition body none => .conditional word condition.text (elements body) none
  | conditional word condition body (some otherwise) =>
    .conditional word condition.text (elements body) (some (elements otherwise))
  | iteration item collection body => .iteration item.text collection.text (elements body)

def elements : List Sketch → List Element
  | [] => []
  | sketch :: rest => sketch.element :: elements rest

end

end Sketch

theorem space_stops (more : Text) : Stops isWord (' ' :: more) :=
  Stops.cons_iff.mpr (by decide +kernel)

theorem colon_stops (more : Text) : Stops isWord (':' :: more) :=
  Stops.cons_iff.mpr isWord_colon

namespace Row

/-- A word and more, with a colon at the end. -/
def header (depth : Nat) (word : Word) (more : Text) (oneLine : '\n' ∉ more) : Row where
  depth := depth
  word := word
  more := ' ' :: (more ++ [':'])
  stops := space_stops _
  ends := ⟨':', by rw [← List.cons_append, List.getLast?_concat], by decide⟩
  oneLine := by simp [oneLine]

def interface (name : Word) : Row :=
  header 0 (.known "interface" (by decide +kernel)) name.text name.oneLine

def display (depth : Nat) (kind : Word) (name : Option Word) : Row :=
  let opener := Word.known "show" (by decide +kernel)
  match name with
  | none => header depth opener kind.text kind.oneLine
  | some name => header depth opener (kind.text ++ ' ' :: name.text)
      (by simp [kind.oneLine, name.oneLine])

def condition (depth : Nat) (word : ConditionWord) (condition : Phrase) : Row :=
  header depth (.known word.text (by cases word <;> decide +kernel)) condition.text condition.oneLine

def iteration (depth : Nat) (item : Word) (collection : Phrase) : Row :=
  header depth (.known "for_each" (by decide +kernel))
    (item.text ++ ' ' :: ("in".toList ++ ' ' :: collection.text))
    (by simp [item.oneLine, collection.oneLine])

def otherwise (depth : Nat) : Row where
  depth := depth
  word := .known "else" (by decide +kernel)
  more := [':']
  stops := colon_stops []
  ends := ⟨':', rfl, by decide⟩
  oneLine := by decide

def setting (depth : Nat) (setting : Assignment) : Row where
  depth := depth
  word := setting.key
  more := ':' :: ' ' :: setting.value.text
  stops := colon_stops _
  ends := by
    obtain ⟨c, last, solid⟩ := setting.value.ends
    exact ⟨c, by simp [List.getLast?_cons, last], solid⟩
  oneLine := by simp [setting.value.oneLine]

end Row

namespace Sketch

mutual

/-- The rows of an element whose header stands at an indentation. Everything it owns is two columns
deeper, and its settings stand first. -/
def rows (depth : Nat) : Sketch → List Row
  | display head children => .display depth head.kind head.name ::
      (head.settings.map (Row.setting (depth + 2)) ++ rowsOf (depth + 2) children)
  | conditional word condition body none =>
    .condition depth word condition :: rowsOf (depth + 2) body
  | conditional word condition body (some otherwise) =>
    .condition depth word condition ::
      (rowsOf (depth + 2) body ++ .otherwise depth :: rowsOf (depth + 2) otherwise)
  | iteration item collection body =>
    .iteration depth item collection :: rowsOf (depth + 2) body

def rowsOf (depth : Nat) : List Sketch → List Row
  | [] => []
  | sketch :: rest => sketch.rows depth ++ rowsOf depth rest

end

end Sketch

/-- The source of an interface: its header at the left margin and its elements below it. -/
def Sketch.source (name : Word) (forest : List Sketch) : Text :=
  Text.join ['\n'] ((Row.interface name :: Sketch.rowsOf 2 forest).map Row.raw)

end AppDescription
