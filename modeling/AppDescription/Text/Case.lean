import AppDescription.Text.Basic
import AppDescription.Text.CaseRuns

namespace AppDescription

/-- The shifted code point of `n`, when some run covers it. -/
def shiftBy? (runs : List CaseRun) (n : Nat) : Option Nat :=
  (runs.find? fun run => run.first ≤ n && n ≤ run.last && (n - run.first) % run.step = 0).map
    fun run => ((n : Int) + run.shift).toNat

/-- A case mapping of one character: several characters, one other character, or itself. -/
def mapCase (expansions : List (Nat × List Nat)) (runs : List CaseRun) (c : Char) : Text :=
  match expansions.lookup c.toNat with
  | some codes => codes.map Char.ofNat
  | none =>
    match shiftBy? runs c.toNat with
    | some code => [Char.ofNat code]
    | none => [c]

def upperChar (c : Char) : Text :=
  if c.toNat < 128 then [c.toUpper] else mapCase upperExpansions upperRuns c

def lowerChar (c : Char) : Text :=
  if c.toNat < 128 then [c.toLower] else mapCase lowerExpansions lowerRuns c

def isCased (c : Char) : Bool :=
  c.isAlpha || inRuns casedRuns c.toNat

/-- Punctuation and marks that do not separate letters for the rule of the final sigma. -/
def isCaseIgnorable (c : Char) : Bool :=
  c = '\'' || c = '.' || c = ':' || c = '^' || c.toNat = 96 || inRuns caseIgnorableRuns c.toNat

/-- A capital sigma ends a word when a cased letter comes before it and none after it, looking
through ignorable characters. The text before is given from its end. -/
def endsWordHere (before after : Text) : Bool :=
  (before.dropWhile isCaseIgnorable).head?.any isCased &&
    !(after.dropWhile isCaseIgnorable).head?.any isCased

namespace Text

def upper (text : Text) : Text :=
  text.flatMap upperChar

/-- Lower case of a text that follows `before`, which is given from its end. -/
def lowerAfter (before : Text) : Text → Text
  | [] => []
  | c :: rest =>
    (if c = 'Σ' then [if endsWordHere before rest then 'ς' else 'σ'] else lowerChar c) ++
      lowerAfter (c :: before) rest

def lower (text : Text) : Text :=
  lowerAfter [] text

end Text

end AppDescription
