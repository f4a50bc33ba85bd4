import Mathlib.Order.Monotone.Basic
import AppDescription.Proofs.CorrespondingOutlines
import AppDescription.Proofs.Pairing

namespace AppDescription

/-- The same line with as much white space in front as `move` makes of what it had. -/
def Reindented (move : Nat → Nat) (raw raw' : Text) : Prop :=
  indentOf raw' = move (indentOf raw) ∧ Text.trimStart raw' = Text.trimStart raw

instance (move : Nat → Nat) (raw raw' : Text) : Decidable (Reindented move raw raw') :=
  inferInstanceAs (Decidable (_ ∧ _))

/-- White space of the right length may be of any kind. -/
theorem reindented_iff {move : Nat → Nat} {raw raw' : Text} :
    Reindented move raw raw' ↔ ∃ space : Text, (∀ c ∈ space, isBlank c = true) ∧
      space.length = move (indentOf raw) ∧ raw' = space ++ Text.trimStart raw := by
  constructor
  · rintro ⟨length, rest⟩
    refine ⟨raw'.takeWhile isBlank, fun c member => List.mem_takeWhile_imp member, length, ?_⟩
    rw [← rest]
    exact List.takeWhile_append_dropWhile.symm
  · rintro ⟨space, blank, length, rfl⟩
    have stops : Stops isBlank (Text.trimStart raw) := Stops.of_dropWhile isBlank raw
    exact ⟨by rw [indentOf, stops.takeWhile_append blank, length], stops.dropWhile_append blank⟩

/-- A line of a source without literals, and what becomes of it. -/
structure Line.Moves (move : Nat → Nat) (line line' : Line) : Prop where
  plain : ¬line.opensLiteral
  number : line'.number = line.number
  indent : line'.indent = move line.indent
  text : line.text = line'.text

theorem moves_corresponds {move : Nat → Nat} (increasing : StrictMono move) (margin : move 0 = 0) :
    Correspondence (Line.Moves move) fun lines lines' =>
      List.Forall₂ (Line.Moves move) (lines.filter Line.isSignificant)
        (lines'.filter Line.isSignificant) := by
  refine significant_corresponds Line.Moves.text ?_ ?_ Line.Moves.plain
  · intro line line' moves
    rw [moves.indent, ← margin, increasing.injective.eq_iff, margin]
  · intro line line' moves other other' movesOther
    rw [moves.indent, movesOther.indent, increasing.le_iff_le]

/-- Without literals only the order of indentations matters. Whatever white space stands in front of
the lines, the document is the same, or the fault is, at the new indentation of its line. -/
theorem Document.parse_reindented {source source' : Text} {move : Nat → Nat}
    (plain : LiteralFree source) (increasing : StrictMono move) (margin : move 0 = 0)
    (lines : List.Forall₂ (Reindented move) (Text.splitOn '\n' source) (Text.splitOn '\n' source')) :
    Document.Matched
      (fun fault fault' => fault'.cause = fault.cause ∧ fault'.line.number = fault.line.number ∧
        fault'.line.indent = move fault.line.indent)
      (Document.parse source) (Document.parse source') := by
  have corresponds := moves_corresponds increasing margin
  have moved : List.Forall₂ (Line.Moves move) (Line.ofSource source) (Line.ofSource source') := by
    have paired := (List.forall₂_and_left _ _).mpr ⟨plain, numberFrom_paired lines 1⟩
    refine paired.imp ?_
    rintro line line' ⟨free, number, indent, text⟩
    exact ⟨free, number, indent, congrArg Text.trimEnd text.symm⟩
  have significant := List.rel_filter (p := Line.isSignificant) (q := Line.isSignificant)
    (fun _ _ moves => Bool.eq_iff_iff.mp (corresponds.significant moves)) moved
  refine (corresponds.outline_alike significant).parse.imp ?_
  rintro fault fault' ⟨moves, cause⟩
  exact ⟨cause.symm, moves.number, moves.indent⟩

/-- Tabs for spaces, over a body whose last line is malformed. -/
theorem Document.parse_reindented_over_else :
    let source : Text := "interface a:\n when x:\n   show y:\n\n else:\n  show\nlogic b:"
    let source' : Text := "interface a:\n\t\twhen x:\n\t\t\t\t  show y:\n\n\t else:\n    show\nlogic b:"
    LiteralFree source ∧ StrictMono (2 * ·) ∧
      List.Forall₂ (Reindented (2 * ·)) (Text.splitOn '\n' source) (Text.splitOn '\n' source') ∧
        Document.Matched
          (fun fault fault' => fault'.cause = fault.cause ∧ fault'.line.number = fault.line.number ∧
            fault'.line.indent = 2 * fault.line.indent)
          (Document.parse source) (Document.parse source') := by
  intro source source'
  have plain : LiteralFree source := by decide +kernel
  have increasing : StrictMono (2 * ·) := fun lower upper ordered => by dsimp only; omega
  have lines : List.Forall₂ (Reindented (2 * ·)) (Text.splitOn '\n' source)
      (Text.splitOn '\n' source') := by decide +kernel
  exact ⟨plain, increasing, lines, Document.parse_reindented plain increasing rfl lines⟩

end AppDescription
