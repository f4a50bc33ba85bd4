import Mathlib.Data.List.Forall2
import AppDescription.Proofs.Announcement
import AppDescription.Proofs.CursorPassage
import AppDescription.Proofs.Padding

namespace AppDescription

namespace Text

/-- A text that a literal block can hold: there is something in it, white space neither starts nor
ends it, and a line of nothing but white space is empty. -/
structure IsLiteral (text : Text) : Prop where
  nonempty : text ≠ []
  trimmed : trim text = text
  solid : ∀ piece ∈ splitOn '\n' text, trim piece = [] → piece = []

instance decidableIsLiteral (text : Text) : Decidable text.IsLiteral :=
  decidable_of_iff (text ≠ [] ∧ trim text = text ∧
      ∀ piece ∈ splitOn '\n' text, trim piece = [] → piece = [])
    ⟨fun ⟨nonempty, trimmed, solid⟩ => ⟨nonempty, trimmed, solid⟩,
      fun fits => ⟨fits.nonempty, fits.trimmed, fits.solid⟩⟩

/-- The first line of such a text starts at the left margin. -/
theorem IsLiteral.first {text : Text} (fits : text.IsLiteral) :
    ∃ piece more, splitOn '\n' text = piece :: more ∧ trim piece ≠ [] ∧ indentOf piece = 0 := by
  obtain ⟨c, rest, rfl⟩ := List.exists_cons_of_ne_nil fits.nonempty
  have solid : isBlank c = false := by
    have stops := stops_trim (c :: rest)
    rwa [fits.trimmed, Stops.cons_iff] at stops
  have other : c ≠ '\n' := by
    rintro rfl
    revert solid
    decide
  have starts (piece : Text) : trim (c :: piece) ≠ [] ∧ indentOf (c :: piece) = 0 := by
    refine ⟨fun empty => ?_, by simp [indentOf, solid]⟩
    have blank := trim_eq_nil_iff.mp empty c List.mem_cons_self
    rw [solid] at blank
    cases blank
  rw [splitOn, if_neg other]
  split
  · exact ⟨[c], [], rfl, starts []⟩
  · rename_i piece more _
    exact ⟨c :: piece, more, rfl, starts piece⟩

/-- What becomes of one line of a text that is indented. -/
def indentPiece (depth : Nat) (piece : Text) : Text :=
  if (trim piece).isEmpty then [] else List.replicate depth ' ' ++ piece

theorem splitOn_indentBy (depth : Nat) (text : Text) :
    splitOn '\n' (indentBy depth text) = (splitOn '\n' text).map (indentPiece depth) := by
  refine splitOn_join (by simp [splitOn_ne_nil]) fun indented member => ?_
  obtain ⟨piece, among, rfl⟩ := List.mem_map.mp member
  split
  · exact List.not_mem_nil
  · rw [List.mem_append, not_or]
    refine ⟨fun space => ?_, not_mem_of_mem_splitOn among⟩
    exact absurd (List.eq_of_mem_replicate space) (by decide)

theorem trim_replicate_append (depth : Nat) (piece : Text) :
    trim (List.replicate depth ' ' ++ piece) = trim piece := by
  unfold trim trimStart
  rw [List.dropWhile_append_of_pos isBlank_of_mem_replicate]

theorem indentOf_replicate_append (depth : Nat) (piece : Text) :
    indentOf (List.replicate depth ' ' ++ piece) = depth + indentOf piece := by
  unfold indentOf
  rw [List.takeWhile_append_of_pos isBlank_of_mem_replicate, List.length_append,
    List.length_replicate]

end Text

namespace Line

/-- A line that is what becomes of a line of an indented text. -/
def Carries (depth : Nat) (line : Line) (piece : Text) : Prop :=
  line.raw = Text.indentPiece depth piece

namespace Carries

variable {depth : Nat} {line : Line} {piece : Text}

theorem cases (carries : line.Carries depth piece) :
    Text.trim piece = [] ∧ line.isBlank = true ∨
      Text.trim piece ≠ [] ∧ line.isBlank = false ∧
        line.raw = List.replicate depth ' ' ++ piece := by
  unfold Carries Text.indentPiece at carries
  split at carries
  · rename_i empty
    refine .inl ⟨List.isEmpty_iff.mp empty, ?_⟩
    simp only [isBlank, text, carries]
    rfl
  · rename_i filled
    rw [List.isEmpty_iff] at filled
    refine .inr ⟨filled, ?_, carries⟩
    rwa [isBlank, text, carries, Text.trim_replicate_append, ← Bool.not_eq_true, List.isEmpty_iff]

theorem continues (carries : line.Carries depth piece) : line.continues depth = true := by
  rcases carries.cases with ⟨_, blank⟩ | ⟨_, _, raw⟩
  · simp [Line.continues, blank]
  · simp [Line.continues, indent, raw, Text.indentOf_replicate_append]

theorem literalPiece_eq (carries : line.Carries depth piece)
    (solid : Text.trim piece = [] → piece = []) : literalPiece depth line = piece := by
  rcases carries.cases with ⟨empty, blank⟩ | ⟨_, shown, raw⟩
  · rw [literalPiece, if_pos blank, solid empty]
  · rw [literalPiece, if_neg (by simp [shown]), raw, List.drop_left' (List.length_replicate ..)]

variable {lines : List Line} {pieces : List Text}

theorem forall₂_iff : List.Forall₂ (Carries depth) lines pieces ↔
    lines.map raw = pieces.map (Text.indentPiece depth) := by
  rw [← List.forall₂_eq_eq_eq, List.forall₂_map_left_iff, List.forall₂_map_right_iff]
  rfl

theorem forall_continues (carried : List.Forall₂ (Carries depth) lines pieces) :
    ∀ line ∈ lines, line.continues depth = true := by
  induction carried with
  | nil => exact List.forall_mem_nil _
  | cons carries _ ih => exact List.forall_mem_cons.mpr ⟨carries.continues, ih⟩

theorem map_literalPiece (carried : List.Forall₂ (Carries depth) lines pieces)
    (solid : ∀ piece ∈ pieces, Text.trim piece = [] → piece = []) :
    lines.map (literalPiece depth) = pieces := by
  induction carried with
  | nil => rfl
  | cons carries _ ih =>
    obtain ⟨here, later⟩ := List.forall_mem_cons.mp solid
    rw [List.map_cons, carries.literalPiece_eq here, ih later]

end Carries

/-- Nothing, or a line that is not blank and starts left of a depth. -/
def EndsLiteral (depth : Nat) (tail : List Line) : Prop :=
  ∀ line ∈ tail.head?, line.isBlank = false ∧ line.indent < depth

theorem EndsLiteral.stops {depth : Nat} {tail : List Line} (ends : EndsLiteral depth tail) :
    Stops (Line.continues depth) tail := by
  intro line first
  obtain ⟨shown, shallow⟩ := ends line first
  simp [continues, shown, shallow]

end Line

/-- An indented text is read back as it was, up to a line that starts left of it. -/
theorem literal_indentBy {text : Text} {depth least : Nat} {lines tail : List Line}
    (fits : text.IsLiteral)
    (carried : lines.map Line.raw = Text.splitOn '\n' (Text.indentBy depth text))
    (deep : least ≤ depth) (ends : Line.EndsLiteral depth tail) :
    literalText least (lines ++ tail) = text ∧ afterLiteral least (lines ++ tail) = tail := by
  rw [Text.splitOn_indentBy, ← Line.Carries.forall₂_iff] at carried
  have whole := Line.Carries.map_literalPiece carried fits.solid
  obtain ⟨piece, more, pieces, filled, margin⟩ := fits.first
  rw [pieces] at carried
  -- the first line is not blank, so its indentation is the one that is removed
  cases carried with
  | @cons first _ rest _ carries carriedRest =>
    rcases carries.cases with ⟨empty, _⟩ | ⟨_, shown, raw⟩
    · exact absurd empty filled
    have indent : first.indent = depth := by
      rw [Line.indent, raw, Text.indentOf_replicate_append, margin, Nat.add_zero]
    have inside := Line.Carries.forall_continues carriedRest
    have started : ((first :: rest) ++ tail).dropWhile Line.isBlank = first :: (rest ++ tail) :=
      List.dropWhile_cons_of_neg (by simp [shown])
    have reaches : least ≤ first.indent := deep.trans indent.ge
    rw [afterLiteral_of_deep started reaches, literalText, literalLines?_of_deep started reaches,
      indent, ends.stops.takeWhile_append inside, ends.stops.dropWhile_append inside]
    refine ⟨?_, rfl⟩
    calc Text.trim (Text.join ['\n'] ((first :: rest).map (literalPiece depth)))
        = Text.trim (Text.join ['\n'] (Text.splitOn '\n' text)) := by rw [whole]
      _ = text := by rw [Text.join_splitOn, fits.trimmed]

theorem LineKind.ofText_eq_literalMarker {text key : Text}
    (marker : ofText text = .literalMarker key) :
    ∃ rest, Text.word? text = some (key, ':' :: rest) ∧ Text.trim rest = ['|'] := by
  unfold ofText at marker
  split at marker
  · cases marker
  · cases marker
  · split at marker
    · cases marker
    · rename_i word rest found
      dsimp only at marker
      split_ifs at marker with broken bar
      cases marker
      exact ⟨rest, found, bar⟩
    · split_ifs at marker

/-- A marker in a body opens a literal, unless its key opens an element. -/
theorem BodyRole.ofLine_of_literalMarker {line : Line} {key : Text}
    (marker : line.kind = .literalMarker key) (plain : key ∉ elementWords) :
    BodyRole.ofLine line = .literal key := by
  have significant : line.isSignificant := by
    simp [Line.isSignificant, marker, LineKind.isSignificant]
  have keyword : line.keyword? = some key := by rw [Line.keyword?, marker]; rfl
  obtain ⟨rest, found, bar⟩ := LineKind.ofText_eq_literalMarker marker
  have notElse : ¬Header.isElse line.text := by
    intro spelled
    have colon : Stops isBlank (':' :: rest) := Stops.cons_iff.mpr (by decide)
    have alone := colon.dropWhile_eq.symm.trans (Header.word_of_isElse found spelled).2
    cases alone
    cases bar
  rw [ofLine, if_pos significant, keyword, Option.bind_some, ElementHeader.read?_plain plain, marker]
  simp only [ofPlain, Header.not_isEventHandler found, notElse, LineKind.isBareSection,
    LineKind.isBareKey, Bool.false_and, Bool.false_eq_true, if_false]

section

variable {text : Text} {depth base : Nat} {marker : Line} {lines tail : List Line}

/-- A block that a marker lies in holds all of the text that is indented below the marker. -/
theorem block_literal (carried : lines.map Line.raw = Text.splitOn '\n' (Text.indentBy depth text))
    (level : base ≤ marker.indent) (deeper : marker.indent < depth) :
    block base (marker :: (lines ++ tail)) = marker :: (lines ++ block base tail) := by
  rw [Text.splitOn_indentBy, ← Line.Carries.forall₂_iff] at carried
  have own : marker.within base = true := by simp [Line.within, level]
  have inside : ∀ line ∈ lines, line.within base = true := fun line member =>
    Line.continues_within (by omega) (Line.Carries.forall_continues carried line member)
  rw [block, List.takeWhile_cons_of_pos own, List.takeWhile_append_of_pos inside, block]

theorem Line.EndsLiteral.block (ends : EndsLiteral depth tail) (base : Nat) :
    EndsLiteral depth (block base tail) := by
  cases tail with
  | nil => exact ends
  | cons first rest =>
    intro line member
    rw [AppDescription.block, List.takeWhile_cons] at member
    split at member
    · exact ends line member
    · cases member

end

/-- A cursor at an indented text reads it as a literal and stops at the line that follows. -/
theorem Cursor.readLiteral_indentBy {cursor : Cursor} {text : Text} {depth least : Nat}
    {continuation : List Text} (fits : text.IsLiteral) (deep : least ≤ depth)
    (below : cursor.lines.drop cursor.position =
      Text.splitOn '\n' (Text.indentBy depth text) ++ continuation)
    (ends : ∀ raw ∈ continuation.head?, Text.trim raw ≠ [] ∧ indentOf raw < depth) :
    cursor.readLiteral least =
      (text, cursor.advanceBy (Text.splitOn '\n' (Text.indentBy depth text)).length) := by
  generalize pieces : Text.splitOn '\n' (Text.indentBy depth text) = raws at below ⊢
  have remaining : cursor.remaining = Line.numberFrom cursor.lineNumber raws ++
      Line.numberFrom (cursor.lineNumber + raws.length) continuation := by
    rw [Cursor.remaining, below, Line.numberFrom_append]
  have stop : Line.EndsLiteral depth
      (Line.numberFrom (cursor.lineNumber + raws.length) continuation) := by
    cases continuation with
    | nil => exact fun _ none => by cases none
    | cons raw rest =>
      rintro _ ⟨⟩
      obtain ⟨shown, shallow⟩ := ends raw rfl
      exact ⟨by simpa [Line.isBlank, Line.text] using shown, shallow⟩
  have carried := (Line.numberFrom_map_raw cursor.lineNumber raws).trans pieces.symm
  obtain ⟨read, left⟩ := literal_indentBy fits carried deep stop
  have position := leaving_position remaining
  rw [Line.numberFrom_length] at position
  rw [readLiteral, remaining, read, left, leaving, ← leaving, advanceBy, ← position]
  rfl

/-- A text that fits comes back from the literal block it is indented into, with what looks like a
comment, deeper lines and empty lines in it, and reading goes on at the line after it: from any
cursor, below the `value` of a computed value, below a property of a body, and below the header of a
computed value. No literal takes a line that is not blank and not deeper than its marker. -/
theorem literal_roundTrip {text : Text} {margin depth : Nat} (fits : text.IsLiteral)
    (deeper : margin < depth) :
    (∀ (cursor : Cursor) (continuation : List Text),
      cursor.lines.drop cursor.position =
        Text.splitOn '\n' (Text.indentBy depth text) ++ continuation →
      (∀ raw ∈ continuation.head?, Text.trim raw ≠ [] ∧ indentOf raw < depth) →
      cursor.readLiteral (margin + 1) =
        (text, cursor.advanceBy (Text.splitOn '\n' (Text.indentBy depth text)).length)) ∧
    (∀ (marker : Line) (lines tail : List Line), marker.indent = margin →
      lines.map Line.raw = Text.splitOn '\n' (Text.indentBy depth text) →
      Line.EndsLiteral depth tail →
      (∀ base ≤ margin, marker.kind = .literalMarker "value" →
        ComputedEntry.read (block base (marker :: (lines ++ tail))) =
          .value text :: ComputedEntry.read (block base tail)) ∧
      (∀ base ≤ margin, ∀ key ∉ elementWords, marker.kind = .literalMarker key →
        Node.read (block base (marker :: (lines ++ tail))) =
          .property key text :: Node.read (block base tail)) ∧
      ∀ name more, Header.named? "computed" marker.text = some (name, more) →
        Text.trim more = ['|'] →
        readComputed marker (lines ++ tail) = .ok (.inline name text, tail)) ∧
    ∀ (cursor : Cursor) position, cursor.position ≤ position →
      position < (cursor.readLiteral (margin + 1)).2.position →
      (cursor.lineAt position).isBlank = true ∨ margin < (cursor.lineAt position).indent := by
  refine ⟨fun cursor continuation => cursor.readLiteral_indentBy fits deeper, ?markers, ?kept⟩
  case markers =>
    rintro marker lines tail rfl carried ends
    have inBlock (base : Nat) := literal_indentBy fits carried deeper (ends.block base)
    refine ⟨fun base level key => ?_, fun base level key plain kind => ?_,
      fun name more header bar => ?_⟩
    · obtain ⟨read, left⟩ := inBlock base
      rw [block_literal carried level deeper, ComputedEntry.read, key]
      simp only [if_true, Line.inner, read, left]
    · obtain ⟨read, left⟩ := inBlock base
      rw [block_literal carried level deeper,
        Node.read_literal (BodyRole.ofLine_of_literalMarker kind plain), Line.inner, read, left]
    · obtain ⟨read, left⟩ := literal_indentBy fits carried deeper ends
      rw [readComputed_eq, readHeaded, header]
      simp only [computedBody, if_pos bar, Line.inner, read, left]
  case kept =>
    intro cursor position lower upper
    obtain ⟨passed, whole, stays⟩ := afterLiteral_continues (margin + 1) cursor.remaining
    have inside := stays _ (Cursor.lineAt_mem_passed whole lower upper)
    simpa only [Line.continues, Bool.or_eq_true, decide_eq_true_eq, Nat.succ_le_iff] using inside

/-- A literal with an empty line and a deeper comment in it, which ends at a comment. -/
theorem literal_roundTrip_before_comment :
    let text : Text := "total = 0\n\n  # add: |\nreturn total"
    let cursor : Cursor := ⟨["computed sum:", "  value: |", "    total = 0", "", "      # add: |",
      "    return total", "  # end"], 2⟩
    text.IsLiteral ∧ 2 < 4 ∧ cursor.readLiteral (2 + 1) = (text, cursor.advanceBy 4) ∧
      ∀ position, cursor.position ≤ position →
        position < (cursor.readLiteral (2 + 1)).2.position →
        (cursor.lineAt position).isBlank = true ∨ 2 < (cursor.lineAt position).indent := by
  intro text cursor
  have fits : text.IsLiteral := by decide +kernel
  have deeper : 2 < 4 := by decide
  obtain ⟨read, _, kept⟩ := literal_roundTrip fits deeper
  exact ⟨fits, deeper, read cursor ["  # end"] (by decide +kernel) (by decide +kernel), kept cursor⟩

end AppDescription
