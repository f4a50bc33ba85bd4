import AppDescription.Line

namespace AppDescription

namespace Line

/-- Whether a line may lie in a block whose members are indented by `least` or more. Blank and
comment lines lie in every block they are met in. -/
def within (least : Nat) (line : Line) : Bool :=
  !line.isSignificant || least ≤ line.indent

/-- The least indentation of what lies inside a header: one more than its own. -/
def inner (line : Line) : Nat :=
  line.indent + 1

end Line

/-- The lines up to the first significant one that is indented by less than `least`. -/
def block (least : Nat) (lines : List Line) : List Line :=
  lines.takeWhile (Line.within least)

def afterBlock (least : Nat) (lines : List Line) : List Line :=
  lines.dropWhile (Line.within least)

/-- The first line that is neither blank nor a comment. -/
def nextSignificant? (lines : List Line) : Option Line :=
  lines.find? Line.isSignificant

/-- The indentation of the first child, when the next significant line is indented by `least` or
more. -/
def baseline? (least : Nat) (lines : List Line) : Option Nat :=
  match nextSignificant? lines with
  | some line => if least ≤ line.indent then some line.indent else none
  | none => none

/-- The lines of a block whose first child, indented by `least` or more, sets the least indentation
of all the others. -/
def members (least : Nat) (lines : List Line) : List Line :=
  match baseline? least lines with
  | some base => block base lines
  | none => []

def afterMembers (least : Nat) (lines : List Line) : List Line :=
  match baseline? least lines with
  | some base => afterBlock base lines
  | none => lines

/-- The texts of the significant lines. -/
def significantTexts (lines : List Line) : List Text :=
  (lines.filter Line.isSignificant).map Line.text

/-- The lines of a literal block below its marker, with the indentation to remove. The first line
that is not blank sets that indentation, and the block ends at the next one with less. Comments are
content here. -/
def literalLines? (least : Nat) (lines : List Line) : Option (Nat × List Line) :=
  match lines.dropWhile Line.isBlank with
  | [] => none
  | first :: rest =>
    if least ≤ first.indent then
      some (first.indent,
        first :: rest.takeWhile fun line => line.isBlank || first.indent ≤ line.indent)
    else none

/-- The content of the literal block below a marker. -/
def literalText (least : Nat) (lines : List Line) : Text :=
  match literalLines? least lines with
  | some (depth, content) =>
    Text.trim (Text.join ['\n'] (content.map fun line =>
      if line.isBlank then [] else line.raw.drop depth))
  | none => []

/-- What follows the literal block below a marker. Blank lines belong to it even when it is
empty. -/
def afterLiteral (least : Nat) (lines : List Line) : List Line :=
  let started := lines.dropWhile Line.isBlank
  match literalLines? least lines with
  | some (_, content) => started.drop content.length
  | none => started

theorem afterBlock_length_le (least : Nat) (lines : List Line) :
    (afterBlock least lines).length ≤ lines.length :=
  (List.dropWhile_suffix _).length_le

theorem block_length_le (least : Nat) (lines : List Line) :
    (block least lines).length ≤ lines.length :=
  (List.takeWhile_prefix _).length_le

theorem members_length_le (least : Nat) (lines : List Line) :
    (members least lines).length ≤ lines.length := by
  unfold members
  split
  · exact block_length_le _ _
  · exact Nat.zero_le _

theorem afterMembers_length_le (least : Nat) (lines : List Line) :
    (afterMembers least lines).length ≤ lines.length := by
  unfold afterMembers
  split
  · exact afterBlock_length_le _ _
  · exact Nat.le_refl _

theorem afterLiteral_length_le (least : Nat) (lines : List Line) :
    (afterLiteral least lines).length ≤ lines.length := by
  have started : (lines.dropWhile Line.isBlank).length ≤ lines.length :=
    (List.dropWhile_suffix _).length_le
  unfold afterLiteral
  split
  · exact Nat.le_trans (by simp) started
  · exact started

/-- A block and what follows it make up the lines it was cut from. -/
theorem block_append_afterBlock (least : Nat) (lines : List Line) :
    block least lines ++ afterBlock least lines = lines :=
  List.takeWhile_append_dropWhile

end AppDescription
