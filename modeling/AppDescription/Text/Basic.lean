namespace AppDescription

/-- Text is a sequence of code points, so lengths, indentations and columns count code points. -/
abbrev Text := List Char

instance textOfString : Coe String (List Char) := ⟨String.toList⟩

/-- The white space that separates words and surrounds values. -/
def isBlank (c : Char) : Bool :=
  let n := c.toNat
  (9 ≤ n && n ≤ 13) || (28 ≤ n && n ≤ 32) || n = 0x85 || n = 0xA0 || n = 0x1680 ||
    (0x2000 ≤ n && n ≤ 0x200A) || n = 0x2028 || n = 0x2029 || n = 0x202F || n = 0x205F || n = 0x3000

/-- Membership in a set given by its run boundaries: each even entry opens a run and the entry
after it is the first number past that run. -/
def inRuns : List Nat → Nat → Bool
  | first :: past :: more, n => first ≤ n && (n < past || inRuns more n)
  | _, _ => false

namespace Text

/-- Cuts at every occurrence of the separator, so there is one piece more than separators. -/
def splitOn (separator : Char) : Text → List Text
  | [] => [[]]
  | c :: rest =>
    if c = separator then [] :: splitOn separator rest
    else
      match splitOn separator rest with
      | [] => [[c]]
      | piece :: pieces => (c :: piece) :: pieces

theorem splitOn_ne_nil (separator : Char) (text : Text) : splitOn separator text ≠ [] := by
  cases text with
  | nil => simp [splitOn]
  | cons c rest =>
    simp only [splitOn]
    split
    · simp
    · split <;> simp

/-- Joins pieces with a separator between neighbours. -/
def join (separator : Text) : List Text → Text
  | [] => []
  | [piece] => piece
  | piece :: next :: pieces => piece ++ separator ++ join separator (next :: pieces)

/-- Joining with the separator undoes cutting at it. -/
theorem join_splitOn (separator : Char) (text : Text) :
    join [separator] (splitOn separator text) = text := by
  induction text with
  | nil => rfl
  | cons c rest ih =>
    simp only [splitOn]
    split
    · rename_i h
      cases pieces : splitOn separator rest with
      | nil => exact absurd pieces (splitOn_ne_nil separator rest)
      | cons piece more => rw [pieces] at ih; simp [join, ih, h]
    · cases pieces : splitOn separator rest with
      | nil => exact absurd pieces (splitOn_ne_nil separator rest)
      | cons piece more =>
        rw [pieces] at ih
        cases more with
        | nil => simpa [join] using ih
        | cons next more => simpa [join] using ih

def trimStart (text : Text) : Text :=
  text.dropWhile isBlank

def trimEnd (text : Text) : Text :=
  (text.reverse.dropWhile isBlank).reverse

/-- Removes the white space around a text. -/
def trim (text : Text) : Text :=
  trimEnd (trimStart text)

/-- The maximal pieces without white space. -/
def words : Text → List Text
  | [] => []
  | c :: rest =>
    if isBlank c then words rest
    else
      match rest with
      | [] => [[c]]
      | next :: _ =>
        if isBlank next then [c] :: words rest
        else
          match words rest with
          | [] => [[c]]
          | word :: more => (c :: word) :: more

/-- Whether `part` occurs somewhere in a text. -/
def hasPart (part : Text) : Text → Bool
  | [] => part.isEmpty
  | c :: rest => part.isPrefixOf (c :: rest) || hasPart part rest

def endsWith (text ending : Text) : Bool :=
  ending.isSuffixOf text

/-- The rest of a text after a leading `start`. -/
def dropPrefix? (start : Text) (text : Text) : Option Text :=
  if start.isPrefixOf text then some (text.drop start.length) else none

/-- Strips one pair of matching quotes around a text. -/
def unquote (text : Text) : Text :=
  match text with
  | [] => []
  | c :: rest =>
    if (c = '"' ∨ c = '\'') ∧ rest.getLast? = some c then rest.dropLast else text

/-- Every line ending, written `\r\n`, `\r` or `\n`, becomes `\n`. -/
def normalizeNewlines : Text → Text
  | [] => []
  | '\r' :: '\n' :: rest => '\n' :: normalizeNewlines rest
  | c :: rest => (if c = '\r' then '\n' else c) :: normalizeNewlines rest

/-- Puts `count` spaces before every line that is not blank and empties the others. -/
def indentBy (count : Nat) (text : Text) : Text :=
  join ['\n'] ((splitOn '\n' text).map fun line =>
    if (trim line).isEmpty then [] else List.replicate count ' ' ++ line)

/-- Puts a text between braces. -/
def braced (inner : Text) : Text :=
  '{' :: inner ++ ['}']

def ofNat (n : Nat) : Text :=
  Nat.toDigits 10 n

def ofInt : Int → Text
  | .ofNat n => ofNat n
  | .negSucc n => '-' :: ofNat (n + 1)

/-- Pads on the left with spaces up to a width. -/
def padLeft (width : Nat) (text : Text) : Text :=
  List.replicate (width - text.length) ' ' ++ text

/-- Pads on the right with spaces up to a width. -/
def padRight (width : Nat) (text : Text) : Text :=
  text ++ List.replicate (width - text.length) ' '

/-- Whether a text stands before another in the order of code points. -/
def isBefore (left right : Text) : Bool :=
  List.lex left right fun c d => c.toNat < d.toNat

/-- Sorts texts by code points. -/
def sort (texts : List Text) : List Text :=
  texts.mergeSort fun a b => !isBefore b a

end Text

end AppDescription
