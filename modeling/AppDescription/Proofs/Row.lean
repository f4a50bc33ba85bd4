import AppDescription.Proofs.Announcement
import AppDescription.Proofs.Numbering
import AppDescription.Proofs.Outlying

namespace AppDescription

/-- What kinds, names, items and keys are. -/
structure Word where
  text : Text
  nonempty : text ≠ []
  all : ∀ c ∈ text, isWord c = true

/-- What values, conditions and collections are. -/
structure Phrase where
  text : Text
  nonempty : text ≠ []
  trimmed : Text.trim text = text
  oneLine : '\n' ∉ text

/-- A line that starts with a word and has no white space at its end. -/
structure Row where
  depth : Nat
  word : Word
  more : Text
  stops : Stops isWord more
  ends : ∃ c, more.getLast? = some c ∧ isBlank c = false
  oneLine : '\n' ∉ more

/-- A word that is known. -/
def Word.known (text : Text) (word : text ≠ [] ∧ text.all isWord) : Word :=
  ⟨text, word.1, List.all_eq_true.mp word.2⟩

theorem Word.oneLine (word : Word) : '\n' ∉ word.text := by
  intro member
  have blank : isBlank '\n' = true := by decide
  have inside := word.all _ member
  rw [isWord_eq_false_of_isBlank blank] at inside
  exact Bool.false_ne_true inside

theorem Phrase.ends (phrase : Phrase) :
    ∃ c, phrase.text.getLast? = some c ∧ isBlank c = false := by
  obtain ⟨c, last⟩ := Option.isSome_iff_exists.mp (List.getLast?_isSome.mpr phrase.nonempty)
  exact ⟨c, last, Text.getLast?_trim (phrase.trimmed.symm ▸ last)⟩

theorem Phrase.starts (phrase : Phrase) : Stops isBlank phrase.text :=
  phrase.trimmed ▸ Text.stops_trim phrase.text

namespace Row

variable (row : Row)

def text : Text :=
  row.word.text ++ row.more

def raw : Text :=
  List.replicate row.depth ' ' ++ row.text

def line (number : Nat) : Line :=
  ⟨number, row.raw⟩

theorem starts : Stops isBlank row.text :=
  Header.stops_blank_word row.word.nonempty row.word.all row.more

theorem indent_line (number : Nat) : (row.line number).indent = row.depth := by
  have run : (row.line number).raw.takeWhile isBlank = List.replicate row.depth ' ' :=
    row.starts.takeWhile_append isBlank_of_mem_replicate
  rw [Line.indent, indentOf, run, List.length_replicate]

theorem text_line (number : Nat) : (row.line number).text = row.text := by
  have start : Text.trimStart (row.line number).raw = row.text :=
    row.starts.dropWhile_append isBlank_of_mem_replicate
  have ends : ∃ c, row.text.getLast? = some c ∧ isBlank c = false := by
    obtain ⟨c, last, solid⟩ := row.ends
    exact ⟨c, by rw [text, List.getLast?_append, last, Option.some_or], solid⟩
  have trimmed := Text.trim_eq row.starts ends
  rw [Text.trim, Text.trimStart, row.starts.dropWhile_eq] at trimmed
  rw [Line.text, Text.trim, start, trimmed]

theorem word?_text : Text.word? row.text = some (row.word.text, row.more) :=
  Text.word?_append row.word.nonempty row.word.all row.stops

theorem keyword?_line (number : Nat) : (row.line number).keyword? = some row.word.text := by
  rw [Line.keyword?, Line.kind, text_line, LineKind.keyword?_ofText, word?_text, Option.map_some]

theorem isSignificant_line (number : Nat) : (row.line number).isSignificant :=
  LineKind.isSignificant_of_keyword? (row.keyword?_line number)

theorem inner_line (number : Nat) : (row.line number).inner = row.depth + 1 := by
  rw [Line.inner, row.indent_line]

theorem outlies_line (number : Nat) (rest : List Line) :
    Outlies (row.depth + 1) (row.line number :: rest) := by
  rintro _ ⟨⟩
  refine ⟨row.isSignificant_line number, ?_⟩
  rw [row.indent_line]
  exact Nat.lt_succ_self row.depth

/-- At the left margin a row declares what its word is the keyword of. -/
theorem declarationKind?_line (number : Nat) {kind : DeclarationKind} (margin : row.depth = 0)
    (keyword : row.word.text = kind.keyword) : (row.line number).declarationKind? = some kind :=
  Line.declarationKind?_eq_some_iff.mpr ⟨by rw [indent_line, margin],
    (Line.keyword?_eq_some_iff.mp (row.keyword?_line number)).1.trans keyword⟩

theorem oneLine_raw : '\n' ∉ row.raw := by
  have space : '\n' ∉ List.replicate row.depth ' ' := by
    intro member
    exact absurd (List.eq_of_mem_replicate member) (by decide)
  simp [raw, text, space, row.word.oneLine, row.oneLine]

/-- Rows as the lines of a source from a number on. -/
def lines (first : Nat) (rows : List Row) : List Line :=
  Line.numberFrom first (rows.map raw)

@[simp]
theorem lines_nil (first : Nat) : lines first [] = [] := rfl

@[simp]
theorem lines_cons (first : Nat) (rows : List Row) :
    lines first (row :: rows) = row.line first :: lines (first + 1) rows := rfl

theorem lines_append (first : Nat) (above below : List Row) :
    lines first (above ++ below) = lines first above ++ lines (first + above.length) below := by
  rw [lines, List.map_append, Line.numberFrom_append, List.length_map]
  rfl

theorem mem_lines {first : Nat} {rows : List Row} {line : Line} (member : line ∈ lines first rows) :
    ∃ row ∈ rows, ∃ number, line = row.line number := by
  induction rows generalizing first with
  | nil => cases member
  | cons row rows ih =>
    rcases List.mem_cons.mp member with rfl | later
    · exact ⟨row, List.mem_cons_self, first, rfl⟩
    · obtain ⟨other, among, number, same⟩ := ih later
      exact ⟨other, List.mem_cons_of_mem row among, number, same⟩

end Row

/-- The first row sets the least indentation of all the others. -/
def Laid (base : Nat) (rows : List Row) : Prop :=
  (∀ row ∈ rows.head?, row.depth = base) ∧ ∀ row ∈ rows, base ≤ row.depth

theorem Laid.append {base : Nat} {above below : List Row} (first : Laid base above)
    (second : Laid base below) : Laid base (above ++ below) := by
  refine ⟨?_, ?_⟩
  · cases above with
    | nil => exact second.1
    | cons row above => exact first.1
  · intro row member
    rcases List.mem_append.mp member with inAbove | inBelow
    · exact first.2 row inAbove
    · exact second.2 row inBelow

theorem Laid.cons {base : Nat} {row : Row} {rows : List Row} (depth : row.depth = base)
    (deep : ∀ other ∈ rows, base ≤ other.depth) : Laid base (row :: rows) := by
  refine ⟨?_, ?_⟩
  · rintro _ ⟨⟩
    exact depth
  · intro other member
    rcases List.mem_cons.mp member with rfl | later
    · exact depth.ge
    · exact deep other later

/-- The rows below a header are just its members when what follows them is not deeper than it. -/
theorem Laid.members {base least : Nat} {rows : List Row} (laid : Laid base rows)
    (deep : least ≤ base) (first : Nat) {rest : List Line} (outlies : Outlies least rest) :
    members least (Row.lines first rows ++ rest) = Row.lines first rows ∧
      afterMembers least (Row.lines first rows ++ rest) = rest := by
  cases rows with
  | nil =>
    rw [outlies.members_append le_rfl, outlies.afterMembers_append le_rfl]
    exact ⟨rfl, rfl⟩
  | cons row rows =>
    have depth : (row.line first).indent = base := (row.indent_line first).trans (laid.1 row rfl)
    refine outlies.members_cons (row.isSignificant_line first) (depth ▸ deep) ?_
    intro line member
    obtain ⟨other, among, number, rfl⟩ := Row.mem_lines member
    rw [Line.within_iff (other.isSignificant_line number), other.indent_line]
    exact depth.le.trans (laid.2 other (List.mem_cons_of_mem row among))

end AppDescription
