import AppDescription.Toml.Moment

namespace AppDescription.Toml

def isBareKey (c : Char) : Bool :=
  ('a' ≤ c && c ≤ 'z') || ('A' ≤ c && c ≤ 'Z') || isDigit c || c = '-' || c = '_'

/-- Reads one name of a key. -/
def Scan.name : Scan Text := do
  if ← accept "'" then literalLine
  else if ← accept "\"" then basicLine
  else
    let name ← takeWhile isBareKey
    if name.isEmpty then fail .keyStart
    return name

/-- Reads the names of a key after the first one. Each takes a character at least. -/
def Scan.moreNames : Nat → Scan (List Text)
  | 0 => return []
  | steps + 1 => do
    skipWhile isSpace
    if ← accept "." then
      skipWhile isSpace
      let name ← name
      return name :: (← moreNames steps)
    return []

/-- Reads a key: names with dots between them. -/
def Scan.key : Scan (List Text) := do
  let first ← name
  return first :: (← moreNames (← remaining))

/-- Reads a value that holds no others. -/
def Scan.plainValue : Scan TomlValue := fun rest =>
  match moment? rest, number? rest with
  | some (moment, more), _ =>
    if moment.isReal then .ok (.moment moment, more) else .error ⟨.date, rest.length⟩
  | none, some (.ok number, more) => .ok (number, more)
  | none, some (.error cause, _) => .error ⟨cause, rest.length⟩
  | none, none => .error ⟨.value, rest.length⟩

/-- The entries of an inline table so far, and the keys whose values may not be extended. -/
structure InlineTable where
  entries : TomlTable
  closed : List (List Text)

namespace InlineTable

/-- Adds an entry. The whole key has to be free. -/
def add (table : InlineTable) (key : List Text) (value : TomlValue) : Except Cause InlineTable :=
  let last := key.getLast?.getD []
  let closed := match value with
    | .array _ | .table _ => table.closed ++ [key]
    | _ => table.closed
  if table.closed.any (·.isPrefixOf key) then .error (.frozen key)
  else
    match TomlTable.update false some key.dropLast table.entries with
    | none => .error .overwritten
    | some _ =>
      match TomlTable.update false (TomlTable.add last value) key.dropLast table.entries with
      | none => .error (.repeatedKey last)
      | some entries => .ok ⟨entries, closed⟩

end InlineTable

/-- Fails with a cause in front of the unread rest, or goes on with a value. -/
def Scan.check {α : Type} (result : Except Cause α) : Scan α :=
  match result with
  | .ok value => pure value
  | .error cause => fail cause

mutual

/-- Reads a value. Each level of nesting takes two steps and a character at least, and so does each
item, so `steps` need not be more than twice the characters that are left and one. -/
def Scan.value : Nat → Scan TomlValue
  | 0 => fail .value
  | steps + 1 => do
    if ← accept "\"\"\"" then return .text (← basicLines)
    if ← accept "\"" then return .text (← basicLine)
    if ← accept "'''" then return .text (← literalLines)
    if ← accept "'" then return .text (← literalLine)
    if ← accept "true" then return .boolean true
    if ← accept "false" then return .boolean false
    if ← accept "[" then return .array (← items steps)
    if ← accept ['{'] then
      skipWhile isSpace
      if ← accept ['}'] then return .table []
      return .table (← entries steps ⟨[], []⟩)
    plainValue

/-- Reads the items of an array and past its end. -/
def Scan.items : Nat → Scan (List TomlValue)
  | 0 => fail .arrayEnd
  | steps + 1 => do
    gap false
    if ← accept "]" then return []
    let item ← value steps
    gap false
    if ← accept "]" then return [item]
    if ← accept "," then return item :: (← items steps)
    fail .arrayEnd

/-- Reads the entries of an inline table and past its end. -/
def Scan.entries : Nat → InlineTable → Scan TomlTable
  | 0, _ => fail .inlineTableEnd
  | steps + 1, table => do
    let (key, value) ← entry steps
    let table ← check (table.add key value)
    skipWhile isSpace
    if ← accept ['}'] then return table.entries
    if ← accept "," then
      skipWhile isSpace
      entries steps table
    else fail .inlineTableEnd

/-- Reads a key and its value. -/
def Scan.entry : Nat → Scan (List Text × TomlValue)
  | 0 => fail .value
  | steps + 1 => do
    let key ← key
    if !(← accept "=") then fail .equalsSign
    skipWhile isSpace
    return (key, ← value steps)

end

/-- Reads a key and its value at the start of a line. -/
def Scan.keyValue : Scan (List Text × TomlValue) := do
  entry (2 * (← remaining) + 2)

end AppDescription.Toml
