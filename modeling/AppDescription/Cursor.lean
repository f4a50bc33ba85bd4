import AppDescription.Outline

namespace AppDescription

/-- A place in a source. It may move past the last line, where every line is empty. -/
structure Cursor where
  lines : List Text
  position : Nat
  deriving Repr, DecidableEq

namespace Cursor

def ofSource (source : Text) : Cursor :=
  ⟨Text.splitOn '\n' source, 0⟩

def lineNumber (cursor : Cursor) : Nat :=
  cursor.position + 1

/-- The line at the cursor. -/
def current (cursor : Cursor) : Line :=
  ⟨cursor.lineNumber, cursor.lines.getD cursor.position []⟩

def hasMore (cursor : Cursor) : Bool :=
  cursor.position < cursor.lines.length

def advanceBy (cursor : Cursor) (count : Nat) : Cursor :=
  { cursor with position := cursor.position + count }

def advance (cursor : Cursor) : Cursor :=
  cursor.advanceBy 1

/-- The line at the cursor and those below it. -/
def remaining (cursor : Cursor) : List Line :=
  Line.numberFrom cursor.lineNumber (cursor.lines.drop cursor.position)

/-- Moves past lines, leaving `rest` of the remaining ones. -/
def leaving (cursor : Cursor) (rest : List Line) : Cursor :=
  { cursor with position := cursor.position + (cursor.remaining.length - rest.length) }

/-- Moves to a line of the source. -/
def moveTo (cursor : Cursor) (line : Line) : Cursor :=
  { cursor with position := line.number - 1 }

/-- Moves past blank and comment lines. -/
def skipInsignificant (cursor : Cursor) : Cursor :=
  cursor.leaving (cursor.remaining.dropWhile fun line => !line.isSignificant)

def peek? (cursor : Cursor) : Option Line :=
  nextSignificant? cursor.remaining

def baseline? (cursor : Cursor) (least : Nat) : Option Nat :=
  AppDescription.baseline? least cursor.remaining

/-- The significant lines of the block at the cursor, and the cursor after the block. A limit that
the block reaches leaves the cursor on the last line taken; one line at least is taken. -/
def takeBlock (cursor : Cursor) (least : Nat) (limit : Option Nat) : List Line × Cursor :=
  let lines := (block least cursor.remaining).filter Line.isSignificant
  let all := (lines, cursor.leaving (afterBlock least cursor.remaining))
  match limit with
  | none => all
  | some limit =>
    let count := max 1 limit
    match lines[count - 1]? with
    | some last => (lines.take count, cursor.moveTo last)
    | none => all

def readLiteral (cursor : Cursor) (least : Nat) : Text × Cursor :=
  (literalText least cursor.remaining, cursor.leaving (afterLiteral least cursor.remaining))

/-- Passes over the current line and everything deeper. -/
def skipUnknown (cursor : Cursor) : Cursor :=
  let below := cursor.advance
  below.leaving (afterBlock cursor.current.inner below.remaining)

/-- Rejects the current line for a reason of the caller's. -/
def failure (cursor : Cursor) (message : Text) (file : Option Path) : Failure :=
  ⟨.parse, message,
    some ⟨file, cursor.lineNumber, cursor.current.indent + 1, some cursor.current.raw⟩⟩

/-- Reads the construct whose header is the current line, whatever that line is. -/
def read (cursor : Cursor) (reader : Line → List Line → Reading α) : Except Fault (α × Cursor) :=
  let below := cursor.advance
  match reader cursor.current below.remaining with
  | .ok (value, rest) => .ok (value, below.leaving rest)
  | .error cause => .error ⟨cursor.current, cause⟩

/-- Reads the interface whose header is the current line. -/
def readInterface (cursor : Cursor) : Except Fault (Interface × Cursor) := do
  let (block, after) ← cursor.read AppDescription.readInterface
  match Finding.firstFault? (Node.allFindings block.body) with
  | some fault => .error fault
  | none => .ok (block.interface, after)

/-- Reads the element whose header is the current line. A line that starts with no element keyword
is malformed here. -/
def readElement (cursor : Cursor) : Except Fault (Node × Cursor) :=
  let line := cursor.current
  let below := cursor.advance
  match line.keyword?.bind fun keyword => ElementHeader.read? keyword line.text with
  | none => .error ⟨line, .statement (line.keyword?.getD "None") line.text⟩
  | some (.error cause) => .error ⟨line, cause⟩
  | some (.ok header) =>
    let (node, rest) := Node.ofHeader header line below.remaining
    match Finding.firstFault? node.findings with
    | some fault => .error fault
    | none => .ok (node, below.leaving rest)

/-- Reads a body whose members are indented by `least` or more: its elements and properties. -/
def readBody (cursor : Cursor) (least : Nat) :
    Except Fault ((List Element × Properties) × Cursor) :=
  let nodes := Node.read (members least cursor.remaining)
  match Finding.firstFault? (Node.allFindings nodes) with
  | some fault => .error fault
  | none =>
    .ok ((Node.elements nodes, Properties.ofAssignments (Node.assignments nodes)),
      cursor.leaving (afterMembers least cursor.remaining))

end Cursor

end AppDescription
