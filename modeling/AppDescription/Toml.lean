import AppDescription.Toml.Nested

namespace AppDescription.Toml

/-- A document while it is read. -/
structure Reading where
  table : TomlTable
  /-- The table that the keys of the next line belong to. -/
  header : List Text
  /-- Tables that have been opened and may not be opened again. -/
  opened : List (List Text)
  /-- Tables made by dotted keys, which count as opened from the next header on. -/
  dotted : List (List Text)
  /-- Keys of arrays and inline tables, at and below which nothing may change. -/
  closed : List (List Text)

namespace Reading

def empty : Reading :=
  ⟨[], [], [], [], []⟩

def isClosed (reading : Reading) (key : List Text) : Bool :=
  reading.closed.any (·.isPrefixOf key)

/-- Dotted keys count as opened once another header begins. -/
def settle (reading : Reading) : Reading :=
  { reading with opened := reading.opened ++ reading.dotted, dotted := [] }

/-- Opens a table. It may exist already, but may not have been opened. -/
def openTable (reading : Reading) (key : List Text) : Except Cause Reading :=
  if reading.opened.contains key || reading.isClosed key then .error (.repeatedTable key)
  else
    match TomlTable.update true some key reading.table with
    | none => .error .overwritten
    | some table => .ok { reading with table, header := key, opened := reading.opened ++ [key] }

/-- Opens the next table of an array. Tables below the one before it may be opened again. -/
def openItem (reading : Reading) (key : List Text) : Except Cause Reading :=
  if reading.isClosed key then .error (.frozen key)
  else
    let addItem := TomlTable.addItem (key.getLast?.getD [])
    match TomlTable.update true addItem key.dropLast reading.table with
    | none => .error .overwritten
    | some table =>
      .ok { reading with
        table
        header := key
        opened := reading.opened.filter (!key.isPrefixOf ·) ++ [key]
        closed := reading.closed.filter (!key.isPrefixOf ·) }

/-- The tables that a dotted key passes through, below a header. -/
def passed (header key : List Text) : List (List Text) :=
  (List.range (key.length - 1)).map fun count => header ++ key.take (count + 1)

/-- Gives a key below the header a value. -/
def assign (reading : Reading) (key : List Text) (value : TomlValue) : Except Cause Reading :=
  let parent := reading.header ++ key.dropLast
  let passed := passed reading.header key
  match passed.find? reading.opened.contains with
  | some name => .error (.redefined name)
  | none =>
    if reading.isClosed parent then .error (.frozen parent)
    else
      let add := TomlTable.add (key.getLast?.getD []) value
      match TomlTable.update true add parent reading.table with
      | none => .error .overwritten
      | some table =>
        let closed := match value with
          | .array _ | .table _ => reading.closed ++ [reading.header ++ key]
          | _ => reading.closed
        .ok { reading with table, closed, dotted := reading.dotted ++ passed }

end Reading

/-- Reads one line that is neither empty nor a comment, up to what may follow it there. -/
def Scan.statement (reading : Reading) : Scan Reading := do
  if ← accept "[[" then
    skipWhile isSpace
    let reading ← check (reading.settle.openItem (← key))
    if ← accept "]]" then return reading
    fail .arrayTableEnd
  if ← accept "[" then
    skipWhile isSpace
    let reading ← check (reading.settle.openTable (← key))
    if ← accept "]" then return reading
    fail .tableEnd
  match ← peek with
  | some c =>
    if isBareKey c || c = '"' || c = '\'' then
      let (key, value) ← keyValue
      check (reading.assign key value)
    else fail .statement
  | none => fail .statement

/-- Reads the lines of a document. Each takes a character at least. -/
def Scan.document : Nat → Reading → Scan Reading
  | 0, reading => return reading
  | steps + 1, reading => do
    skipWhile isSpace
    match ← peek with
    | none => return reading
    | some c =>
      let reading ← if c = '\n' || c = '#' then pure reading else statement reading
      skipWhile isSpace
      comment
      if ← accept "\n" then document steps reading
      else
        if (← peek).isSome then fail .trailing
        return reading

/-- The table of a document whose line ends are all `\n`. -/
def ofText (text : Text) : Except Fault TomlTable :=
  ((Scan.document (text.length + 1) .empty).run text).map fun result => result.1.table

end AppDescription.Toml
