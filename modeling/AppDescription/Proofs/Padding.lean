import AppDescription.Proofs.CorrespondingOutlines
import AppDescription.Proofs.Numbering
import AppDescription.Proofs.TextForm

namespace AppDescription

/-- The same lines with so many more above them and blank lines below them. -/
def Padded (count : Nat) (lines lines' : List Line) : Prop :=
  ∃ blanks, (∀ line ∈ blanks, line.isBlank = true) ∧ lines' = lines.map (Line.below count) ++ blanks

namespace Padded

variable {count : Nat} {lines lines' : List Line}

theorem map (count : Nat) (lines : List Line) : Padded count lines (lines.map (Line.below count)) :=
  ⟨[], by simp, by simp⟩

theorem cons (line : Line) (padded : Padded count lines lines') :
    Padded count (line :: lines) (line.below count :: lines') := by
  obtain ⟨blanks, all, rfl⟩ := padded
  exact ⟨blanks, all, rfl⟩

theorem cons_inv {line : Line} (padded : Padded count (line :: lines) lines') :
    ∃ rest, lines' = line.below count :: rest ∧ Padded count lines rest := by
  obtain ⟨blanks, all, rfl⟩ := padded
  exact ⟨_, rfl, blanks, all, rfl⟩

/-- A cut that does not look at numbers is made at the same line. -/
theorem cut (keep keep' : Line → Bool) (same : ∀ line, keep line = keep' (line.below count))
    (padded : Padded count lines lines') :
    Padded count (lines.takeWhile keep) (lines'.takeWhile keep') ∧
      Padded count (lines.dropWhile keep) (lines'.dropWhile keep') := by
  induction lines generalizing lines' with
  | nil =>
    obtain ⟨blanks, all, shape⟩ := padded
    rw [List.map_nil, List.nil_append] at shape
    subst shape
    refine ⟨⟨lines'.takeWhile keep', ?_, rfl⟩, ⟨lines'.dropWhile keep', ?_, rfl⟩⟩
    · exact fun line member => all line ((List.takeWhile_sublist _).mem member)
    · exact fun line member => all line ((List.dropWhile_sublist _).mem member)
  | cons line lines ih =>
    obtain ⟨rest, rfl, below⟩ := padded.cons_inv
    cases kept : keep line with
    | true =>
      have kept' : keep' (line.below count) = true := (same line).symm.trans kept
      simp only [List.takeWhile_cons_of_pos kept, List.takeWhile_cons_of_pos kept',
        List.dropWhile_cons_of_pos kept, List.dropWhile_cons_of_pos kept']
      exact ⟨(ih below).1.cons line, (ih below).2⟩
    | false =>
      have kept' : keep' (line.below count) = false := (same line).symm.trans kept
      simp only [List.takeWhile_cons, List.dropWhile_cons, kept, kept', Bool.false_eq_true, if_false]
      exact ⟨map count [], below.cons line⟩

/-- Without more lines on either side, only blank lines are left. -/
theorem all_blank (padded : Padded count [] lines) : ∀ line ∈ lines, line.isBlank = true := by
  obtain ⟨blanks, all, rfl⟩ := padded
  exact all

end Padded

theorem dropWhile_eq_nil {p : α → Bool} {list : List α} (all : ∀ x ∈ list.dropWhile p, p x = true) :
    list.dropWhile p = [] := by
  rw [← (Stops.of_dropWhile p list).dropWhile_eq, List.dropWhile_eq_nil_iff]
  exact all

/-- The text a literal takes from one of its lines. -/
def literalPiece (depth : Nat) (line : Line) : Text :=
  if line.isBlank then [] else line.raw.drop depth

theorem Text.join_append_nils (separator : Char) {pieces : List Text} (nonempty : pieces ≠ [])
    (count : Nat) : join [separator] (pieces ++ List.replicate count []) =
      join [separator] pieces ++ List.replicate count separator := by
  induction count with
  | zero => simp
  | succ count ih =>
    have more : pieces ++ List.replicate count [] ≠ [] := by simp [nonempty]
    rw [List.replicate_succ', ← List.append_assoc, join_append _ more (by simp), ih,
      List.replicate_succ', join, List.append_nil, List.append_assoc]

/-- Blank lines at the end of a literal are not part of its text. -/
theorem Padded.trim_join {count : Nat} {lines lines' : List Line} (depth : Nat)
    (nonempty : lines ≠ []) (padded : Padded count lines lines') :
    Text.trim (Text.join ['\n'] (lines.map (literalPiece depth))) =
      Text.trim (Text.join ['\n'] (lines'.map (literalPiece depth))) := by
  obtain ⟨blanks, all, rfl⟩ := padded
  have pieces : (lines.map (Line.below count)).map (literalPiece depth) =
      lines.map (literalPiece depth) := by
    rw [List.map_map]
    rfl
  have nils : blanks.map (literalPiece depth) = List.replicate blanks.length [] := by
    rw [List.map_eq_replicate_iff]
    intro line member
    rw [literalPiece, if_pos (all line member)]
  have spaces : ∀ c ∈ List.replicate blanks.length '\n', isBlank c = true := by
    intro c member
    rw [List.eq_of_mem_replicate member]
    decide
  rw [List.map_append, pieces, nils, Text.join_append_nils _ (by simpa using nonempty),
    Text.trim_append _ spaces]

theorem Padded.literal {count least : Nat} {lines lines' : List Line}
    (padded : Padded count lines lines') :
    literalText least lines = literalText least lines' ∧
      Padded count (afterLiteral least lines) (afterLiteral least lines') := by
  have started := (padded.cut Line.isBlank Line.isBlank fun _ => rfl).2
  rcases literal_cases least lines with ⟨first, rest, start, deep⟩ | shallow
  · rw [start] at started
    obtain ⟨rest', start', paddedRest⟩ := started.cons_inv
    have content := paddedRest.cut (Line.continues first.indent) (Line.continues first.indent)
      fun _ => rfl
    have text := (content.1.cons first).trim_join first.indent (by simp)
    rw [afterLiteral_of_deep start deep, afterLiteral_of_deep start' deep]
    simp only [literalText, literalLines?_of_deep start deep, literalLines?_of_deep start' deep]
    exact ⟨text, content.2⟩
  · have shallow' : ∀ first rest, lines'.dropWhile Line.isBlank = first :: rest →
        first.indent < least := by
      intro first rest start'
      cases start : lines.dropWhile Line.isBlank with
      | nil =>
        rw [start] at started
        rw [dropWhile_eq_nil started.all_blank] at start'
        cases start'
      | cons line below =>
        rw [start] at started
        obtain ⟨below', same, _⟩ := started.cons_inv
        cases same.symm.trans start'
        exact shallow line below start
    rw [afterLiteral_of_shallow shallow, afterLiteral_of_shallow shallow']
    simp only [literalText, literalLines?_of_shallow shallow, literalLines?_of_shallow shallow']
    exact ⟨trivial, started⟩

theorem padded_corresponds (count : Nat) :
    Correspondence (fun line line' => line' = line.below count) (Padded count) where
  text := by
    rintro line _ rfl
    rfl
  margin := by
    rintro line _ rfl
    exact Iff.rfl
  ordered := by
    rintro line _ rfl other _ rfl
    exact Iff.rfl
  nil := .map count []
  next := by
    intro lines lines' padded
    have front := (padded.cut (fun line => !line.isSignificant) (fun line => !line.isSignificant)
      fun _ => rfl).2
    cases next : significantOn lines with
    | nil =>
      left
      unfold significantOn at next
      rw [next] at front
      refine ⟨rfl, dropWhile_eq_nil fun line member => ?_⟩
      simpa using Line.isBlank_not_significant (front.all_blank line member)
    | cons line rest =>
      right
      unfold significantOn at next
      rw [next] at front
      obtain ⟨rest', next', below⟩ := front.cons_inv
      exact ⟨line, line.below count, rest, rest', rfl, next', rfl, below⟩
  block := by
    intro least least' lines lines' levels padded
    exact (padded.cut _ _ fun _ => levels.within rfl rfl).1
  afterBlock := by
    intro least least' lines lines' levels padded
    exact (padded.cut _ _ fun _ => levels.within rfl rfl).2
  literal := by
    rintro line _ lines lines' rfl _ padded
    exact padded.literal

/-- The same fault with so many more lines above it. -/
def Fault.below (count : Nat) (fault : Fault) : Fault :=
  ⟨fault.line.below count, fault.cause⟩

/-- The message, the column and the snippet of a fault stay, and its line number goes up. -/
theorem Fault.failure_below (count : Nat) (fault : Fault) (file : Option Path) :
    (fault.below count).failure file =
      { fault.failure file with
        place := (fault.failure file).place.map fun place =>
          { place with line := place.line + count } } := by
  simp only [failure, below, Line.below, Line.indent, Option.map_some, Int.natCast_add]

theorem Fault.rel_below {count : Nat} {fault fault' : Option Fault}
    (alike : Option.Rel (Fault.Alike fun line line' => line' = line.below count) fault fault') :
    fault' = fault.map (Fault.below count) := by
  cases alike with
  | none => rfl
  | @some fault fault' paired =>
    obtain ⟨line, cause⟩ := fault
    obtain ⟨line', cause'⟩ := fault'
    obtain ⟨rfl, rfl⟩ := paired
    rfl

/-- Lines above and blank lines below change nothing but the line of a fault. -/
theorem Padded.outline {count : Nat} {lines lines' : List Line} (padded : Padded count lines lines') :
    Document.ofDeclarations (Outline.read lines').declarations =
        Document.ofDeclarations (Outline.read lines).declarations ∧
      (Outline.read lines').fault? = (Outline.read lines).fault?.map (Fault.below count) := by
  have alike := (padded_corresponds count).outline_alike padded
  exact ⟨alike.document.symm, Fault.rel_below alike.fault⟩

end AppDescription
