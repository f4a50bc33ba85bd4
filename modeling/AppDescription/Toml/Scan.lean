import AppDescription.Toml.Fault

namespace AppDescription.Toml

/-- A reader of part of a document. It leaves the rest of the document, or fails at some place. -/
abbrev Scan := StateT Text (Except Fault)

namespace Scan

/-- Fails in front of the unread rest. -/
def fail {α : Type} (cause : Cause) : Scan α := fun rest =>
  .error ⟨cause, rest.length⟩

def peek : Scan (Option Char) := fun rest =>
  .ok (rest.head?, rest)

def take (count : Nat) : Scan Text := fun rest =>
  .ok (rest.take count, rest.drop count)

def takeWhile (p : Char → Bool) : Scan Text := fun rest =>
  .ok (rest.takeWhile p, rest.dropWhile p)

def skipWhile (p : Char → Bool) : Scan Unit := fun rest =>
  .ok ((), rest.dropWhile p)

/-- Reads a text if it comes next, and tells whether it did. -/
def accept (text : Text) : Scan Bool := fun rest =>
  match Text.dropPrefix? text rest with
  | some more => .ok (true, more)
  | none => .ok (false, rest)

end Scan

def isSpace (c : Char) : Bool :=
  c = ' ' || c = '\t'

def isSpaceOrNewline (c : Char) : Bool :=
  isSpace c || c = '\n'

/-- The control characters of ASCII without the tab, which no string and no comment may hold. -/
def isControl (c : Char) : Bool :=
  (c.toNat < 32 && c ≠ '\t') || c.toNat = 127

/-- The text up to a delimiter and the text from there on. -/
def untilText (delimiter : Text) : Text → Option (Text × Text)
  | [] => none
  | c :: rest =>
    if delimiter.isPrefixOf (c :: rest) then some ([], c :: rest)
    else (untilText delimiter rest).map fun found => (c :: found.1, found.2)

/-- Reads up to a delimiter and past it. A missing delimiter is reported before any character that
must not stand in front of it. -/
def Scan.takeUntil (delimiter : Text) (isBad : Char → Bool) : Scan Text := fun rest =>
  match untilText delimiter rest with
  | none => .error ⟨.expected delimiter, 0⟩
  | some (found, more) =>
    let fine := found.takeWhile (!isBad ·)
    match found.drop fine.length with
    | [] => .ok (found, more.drop delimiter.length)
    | c :: _ => .error ⟨.invalidCharacter c, rest.length - fine.length⟩

/-- Reads a comment, if one comes next, up to the end of its line. -/
def Scan.comment : Scan Unit := fun rest =>
  match rest with
  | '#' :: text =>
    let line := text.takeWhile (· ≠ '\n')
    let fine := line.takeWhile (!isControl ·)
    match line.drop fine.length with
    | [] => .ok ((), text.drop line.length)
    | c :: _ => .error ⟨.invalidCharacter c, text.length - fine.length⟩
  | _ => .ok ((), rest)

/-- Reads blanks, line ends and comments. -/
def Scan.gap (inComment : Bool) : Scan Unit
  | [] => .ok ((), [])
  | c :: rest =>
    if c = '\n' then gap false rest
    else if inComment then
      if isControl c then .error ⟨.invalidCharacter c, rest.length + 1⟩ else gap true rest
    else if isSpace c then gap false rest
    else if c = '#' then gap true rest
    else .ok ((), c :: rest)

end AppDescription.Toml
