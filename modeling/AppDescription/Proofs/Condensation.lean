import AppDescription.Proofs.CorrespondingOutlines
import AppDescription.Proofs.Pairing

namespace AppDescription

/-- The lines of a source that are neither blank nor comments. -/
def significantLines (source : Text) : List Line :=
  (Line.ofSource source).filter Line.isSignificant

/-- A source without its blank and comment lines. -/
def condensed (source : Text) : Text :=
  Text.join ['\n'] ((significantLines source).map Line.raw)

/-- Two lines that have the same place among the significant lines of two sources. -/
def SamePlace (source source' : Text) (line line' : Line) : Prop :=
  ∃ index : Nat, (significantLines source)[index]? = some line ∧
    (significantLines source')[index]? = some line'

theorem forall₂_of_map_eq {f : α → γ} {g : β → γ} {list : List α} {list' : List β}
    (same : list.map f = list'.map g) :
    List.Forall₂ (fun x y => f x = g y ∧
      ∃ index : Nat, list[index]? = some x ∧ list'[index]? = some y) list list' := by
  have length : list.length = list'.length := by simpa using congrArg List.length same
  refine List.forall₂_iff_get.mpr ⟨length, fun index within within' => ⟨?_, index, ?_, ?_⟩⟩
  · have entry := congrArg (·[index]?) same
    simpa [within, within'] using entry
  · exact List.getElem?_eq_getElem within
  · exact List.getElem?_eq_getElem within'

/-- Where there are no literals, two sources with the same significant lines are read alike. -/
theorem Document.parse_matched {source source' : Text} (plain : LiteralFree source)
    (same : (significantLines source').map Line.raw = (significantLines source).map Line.raw) :
    Document.Matched
      (fun fault fault' => fault'.cause = fault.cause ∧ fault'.line.raw = fault.line.raw ∧
        SamePlace source source' fault.line fault'.line)
      (Document.parse source) (Document.parse source') := by
  let placed (line line' : Line) : Prop := ¬line.opensLiteral ∧ line.raw = line'.raw ∧
    SamePlace source source' line line'
  have corresponds : Correspondence placed _ := significant_corresponds
    (fun related => by simp only [Line.text, related.2.1])
    (fun related => by simp only [Line.indent, related.2.1])
    (fun related other other' relatedOther => by
      simp only [Line.indent, related.2.1, relatedOther.2.1])
    (fun related => related.1)
  have paired := (List.forall₂_and_left _ _).mpr
    ⟨fun line member => plain line (List.mem_of_mem_filter member), forall₂_of_map_eq same.symm⟩
  refine (corresponds.outline_alike paired).parse.imp ?_
  rintro fault fault' ⟨⟨_, raw, place⟩, cause⟩
  exact ⟨cause.symm, raw.symm, place⟩

theorem isSignificant_of_mem_numberFrom {first : Nat} {lines : List Line} {line : Line}
    (significant : ∀ other ∈ lines, other.isSignificant)
    (member : line ∈ Line.numberFrom first (lines.map Line.raw)) : line.isSignificant := by
  obtain ⟨index, found⟩ := List.mem_iff_getElem?.mp member
  rw [Line.numberFrom_getElem?, List.getElem?_map, Option.map_map] at found
  obtain ⟨other, among, rfl⟩ := Option.map_eq_some_iff.mp found
  exact significant other (List.mem_of_getElem? among)

theorem significantLines_condensed (source : Text) :
    significantLines (condensed source) =
      Line.numberFrom 1 ((significantLines source).map Line.raw) := by
  cases lines : significantLines source with
  | nil => simp only [condensed, lines]; decide +kernel
  | cons line rest =>
    have pieces : Text.splitOn '\n' (condensed source) = (line :: rest).map Line.raw := by
      rw [condensed, lines]
      refine Text.splitOn_join (by simp) fun raw member => ?_
      obtain ⟨other, among, rfl⟩ := List.mem_map.mp member
      rw [← lines] at among
      have piece := List.mem_map_of_mem (f := Line.raw) (List.mem_of_mem_filter among)
      rw [Line.ofSource_map_raw] at piece
      exact Text.not_mem_of_mem_splitOn piece
    rw [significantLines, Line.ofSource, pieces, List.filter_eq_self]
    intro other member
    refine isSignificant_of_mem_numberFrom (fun line member => ?_) member
    rw [← lines] at member
    exact (List.mem_filter.mp member).2

/-- Blank and comment lines do not matter where there are no literals. Without them the document is
the same, or the fault is, on the same line under its new number; and so it is whichever of them are
put in. -/
theorem Document.parse_condensed {source : Text} (plain : LiteralFree source) :
    Document.Matched
        (fun fault fault' => fault'.cause = fault.cause ∧
          ∃ index, (significantLines source)[index]? = some fault.line ∧
            fault'.line = ⟨index + 1, fault.line.raw⟩)
        (Document.parse source) (Document.parse (condensed source)) ∧
      ∀ source', (significantLines source').map Line.raw = (significantLines source).map Line.raw →
        Document.Matched
          (fun fault fault' => fault'.cause = fault.cause ∧ fault'.line.raw = fault.line.raw ∧
            SamePlace source source' fault.line fault'.line)
          (Document.parse source) (Document.parse source') := by
  refine ⟨?_, fun source' same => Document.parse_matched plain same⟩
  have lines := significantLines_condensed source
  have raws : (significantLines (condensed source)).map Line.raw =
      (significantLines source).map Line.raw := by rw [lines, Line.numberFrom_map_raw]
  refine (Document.parse_matched plain raws).imp ?_
  rintro fault fault' ⟨cause, raw, index, found, found'⟩
  rw [lines, Line.numberFrom_getElem?, List.getElem?_map, found] at found'
  simp only [Option.map_some, Option.some.injEq] at found'
  exact ⟨cause, index, found, by rw [← found', Nat.add_comm]⟩

/-- A malformed header after a comment and a blank line in a body. -/
theorem Document.parse_condensed_over_comment :
    let source : Text := "interface a:\n  when x:\n# note\n\n    show y:\n  # else\n  else:\n\n    show"
    LiteralFree source ∧
      condensed source = "interface a:\n  when x:\n    show y:\n  else:\n    show".toList ∧
        Document.Matched
          (fun fault fault' => fault'.cause = fault.cause ∧
            ∃ index, (significantLines source)[index]? = some fault.line ∧
              fault'.line = ⟨index + 1, fault.line.raw⟩)
          (Document.parse source) (Document.parse (condensed source)) := by
  intro source
  have plain : LiteralFree source := by decide +kernel
  exact ⟨plain, by decide +kernel, (Document.parse_condensed plain).1⟩

end AppDescription
