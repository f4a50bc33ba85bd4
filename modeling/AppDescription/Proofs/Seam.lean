import AppDescription.Proofs.Outlying
import AppDescription.Proofs.Padding

namespace AppDescription

/-- A reading that leaves `tail` as well. -/
def Reading.leaving (tail : List Line) (reading : Reading α) : Reading α :=
  reading.map (Prod.map id (· ++ tail))

theorem Reading.leaving_map (tail : List Line) (reading : Reading α) (f : α → β) :
    Reading.leaving tail (reading.map (Prod.map f id)) =
      Except.map (Prod.map f id) (reading.leaving tail) := by
  cases reading <;> rfl

namespace Outlies

variable {level : Nat} {tail : List Line} (outlies : Outlies level tail) {header : Line}
  (deep : level ≤ header.inner) (lines : List Line)

include outlies deep

theorem readOwner_append (keyword : Text) (ofBody : Text → List Line → α) :
    readOwner keyword ofBody header (lines ++ tail) =
      (readOwner keyword ofBody header lines).leaving tail := by
  unfold readOwner
  rw [outlies.block_append deep, outlies.afterBlock_append deep]
  split <;> rfl

theorem readInterface_append :
    readInterface header (lines ++ tail) = (readInterface header lines).leaving tail := by
  unfold readInterface
  rw [outlies.members_append deep, outlies.afterMembers_append deep]
  split <;> rfl

theorem readComputed_append :
    readComputed header (lines ++ tail) = (readComputed header lines).leaving tail := by
  obtain ⟨content, after⟩ := outlies.literal_append deep lines
  unfold readComputed
  rw [outlies.members_append deep, outlies.afterMembers_append deep, content, after]
  split
  · rfl
  · dsimp only
    split
    · rfl
    · split <;> rfl

theorem readNamed_append :
    readNamed header (lines ++ tail) = (readNamed header lines).leaving tail := by
  unfold readNamed
  rw [outlies.afterBlock_append deep]
  split <;> rfl

theorem readUnnamed_append (ofBody : List Line → α) :
    readUnnamed ofBody header (lines ++ tail) = (readUnnamed ofBody header lines).leaving tail := by
  unfold readUnnamed
  rw [outlies.block_append deep, outlies.afterBlock_append deep]
  split <;> rfl

/-- A declaration is read alike whether its lines end or `tail` follows. -/
theorem declaration_append (kind : DeclarationKind) :
    Declaration.read kind header (lines ++ tail) =
      (Declaration.read kind header lines).leaving tail := by
  cases kind with
  | app | data | logic =>
    exact (congrArg _ (outlies.readOwner_append deep lines _ _)).trans
      (Reading.leaving_map tail _ _).symm
  | interface =>
    exact (congrArg _ (outlies.readInterface_append deep lines)).trans
      (Reading.leaving_map tail _ _).symm
  | computed =>
    exact (congrArg _ (outlies.readComputed_append deep lines)).trans
      (Reading.leaving_map tail _ _).symm
  | stateMachine | realtime | external =>
    exact (congrArg _ (outlies.readNamed_append deep lines)).trans
      (Reading.leaving_map tail _ _).symm
  | integrations | deploy =>
    exact (congrArg _ (outlies.readUnnamed_append deep lines _)).trans
      (Reading.leaving_map tail _ _).symm

end Outlies

/-- Reading stops above a seam, or what stands below the seam is read on its own, whatever it is. -/
theorem Outline.read_above_seam (lines : List Line) :
    ((Outline.read lines).fault?.isSome ∧
        ∀ tail, Outlies 1 tail → Outline.read (lines ++ tail) = Outline.read lines) ∨
      ∀ tail, Outlies 1 tail →
        Outline.read (lines ++ tail) = Outline.read lines ++ Outline.read tail := by
  induction size : lines.length using Nat.strong_induction_on generalizing lines with
  | _ size ih =>
    cases lines with
    | nil => exact Or.inr fun tail _ => by simp
    | cons line rest =>
      have deep : 1 ≤ line.inner := Nat.succ_pos _
      simp only [List.length_cons] at size
      by_cases significant : line.isSignificant
      · cases kind : line.declarationKind? with
        | none =>
          have shorter := afterBlock_length_le line.inner rest
          have onward (tail : List Line) (outlies : Outlies 1 tail) :
              Outline.read (line :: rest ++ tail) =
                .unknown line :: Outline.read (afterBlock line.inner rest ++ tail) := by
            rw [List.cons_append, Outline.read_unknown significant kind, outlies.afterBlock_append deep]
          rw [Outline.read_unknown significant kind]
          rcases ih _ (by omega) (afterBlock line.inner rest) rfl with ⟨stopped, stays⟩ | goes
          · exact Or.inl ⟨stopped, fun tail outlies => by rw [onward tail outlies, stays tail outlies]⟩
          · exact Or.inr fun tail outlies => by
              rw [onward tail outlies, goes tail outlies, List.cons_append]
        | some found =>
          cases reading : Declaration.read found line rest with
          | error cause =>
            rw [Outline.read_malformed significant kind reading]
            refine Or.inl ⟨rfl, fun tail outlies => ?_⟩
            have seam := outlies.declaration_append deep rest found
            rw [reading] at seam
            exact Outline.read_malformed significant kind seam
          | ok parts =>
            obtain ⟨declaration, below⟩ := parts
            have shorter := Declaration.read_shrinks found line rest declaration below reading
            have onward (tail : List Line) (outlies : Outlies 1 tail) :
                Outline.read (line :: rest ++ tail) =
                  .declared line declaration :: Outline.read (below ++ tail) := by
              have seam := outlies.declaration_append deep rest found
              rw [reading] at seam
              exact Outline.read_declared significant kind seam
            rw [Outline.read_declared significant kind reading, Outline.fault?_declared]
            rcases ih _ (by omega) below rfl with ⟨stopped, stays⟩ | goes
            · refine Or.inl ⟨?_, fun tail outlies => by rw [onward tail outlies, stays tail outlies]⟩
              rw [Option.isSome_or, stopped, Bool.or_true]
            · exact Or.inr fun tail outlies => by
                rw [onward tail outlies, goes tail outlies, List.cons_append]
      · rw [Outline.read_insignificant significant]
        simp only [List.cons_append, Outline.read_insignificant significant]
        exact ih _ (by omega) rest rfl

/-- What stands below a seam is read on its own, unless reading has stopped above it. -/
theorem Outlies.outline_append {tail : List Line} (outlies : Outlies 1 tail) (lines : List Line) :
    (Outline.read (lines ++ tail) = Outline.read lines ∧ (Outline.read lines).fault?.isSome) ∨
      Outline.read (lines ++ tail) = Outline.read lines ++ Outline.read tail := by
  rcases Outline.read_above_seam lines with ⟨stopped, stays⟩ | goes
  · exact Or.inl ⟨stays tail outlies, stopped⟩
  · exact Or.inr (goes tail outlies)

/-- What is read alike below a seam is read alike with the same lines above. -/
theorem Outlies.outline_congr {tail tail' : List Line} (outlies : Outlies 1 tail)
    (outlies' : Outlies 1 tail') (lines : List Line) (same : Outline.read tail = Outline.read tail') :
    Outline.read (lines ++ tail) = Outline.read (lines ++ tail') := by
  rcases Outline.read_above_seam lines with ⟨_, stays⟩ | goes
  · rw [stays tail outlies, stays tail' outlies']
  · rw [goes tail outlies, goes tail' outlies', same]

/-- The first line of a source that is not blank, if there is one, is no comment and stands at the
left margin. -/
def StartsAtMargin (source : Text) : Prop :=
  ∀ line ∈ (Line.ofSource source).find? fun line => !line.isBlank,
    line.isSignificant ∧ line.indent = 0

instance (source : Text) : Decidable (StartsAtMargin source) :=
  inferInstanceAs (Decidable (∀ line ∈ _, _))

theorem Line.ofSource_append (first second : Text) :
    Line.ofSource (first ++ '\n' :: second) = Line.ofSource first ++
      (Line.ofSource second).map (Line.below (Line.ofSource first).length) := by
  unfold Line.ofSource
  rw [Text.splitOn_append, Line.numberFrom_append, Line.numberFrom_below, Line.numberFrom_length]

theorem Outline.read_insignificant_append {hidden : List Line}
    (all : ∀ line ∈ hidden, ¬line.isSignificant) (lines : List Line) :
    read (hidden ++ lines) = read lines := by
  induction hidden with
  | nil => rfl
  | cons line hidden ih =>
    rw [List.cons_append, read_insignificant (all line List.mem_cons_self)]
    exact ih fun other member => all other (List.mem_cons_of_mem line member)

theorem Outline.read_blanks {blanks : List Line} (blank : ∀ line ∈ blanks, line.isBlank = true)
    (lines : List Line) : read (blanks ++ lines) = read lines :=
  read_insignificant_append (fun line member => Line.isBlank_not_significant (blank line member)) lines

theorem Outline.fault?_append (first second : Outline) :
    fault? (first ++ second) = (fault? first).or (fault? second) := by
  unfold fault? findings
  rw [List.flatMap_append, Finding.firstFault?_append]

/-- The blank lines that a source starts with go with the lines above the seam. -/
theorem Outline.ofSource_append (first : Text) {second : Text} (margin : StartsAtMargin second) :
    (ofSource (first ++ '\n' :: second)).fault? = (ofSource first).fault?.or
        ((ofSource second).fault?.map (Fault.below (Line.ofSource first).length)) ∧
      ((ofSource first).fault? = none →
        Document.ofDeclarations (ofSource (first ++ '\n' :: second)).declarations =
          (Document.ofDeclarations (ofSource first).declarations).followedBy
            (Document.ofDeclarations (ofSource second).declarations)) := by
  let count := (Line.ofSource first).length
  let blanks := (Line.ofSource second).takeWhile Line.isBlank
  let tail := (Line.ofSource second).dropWhile Line.isBlank
  have split : blanks ++ tail = Line.ofSource second := List.takeWhile_append_dropWhile
  have blank : ∀ line ∈ blanks, line.isBlank = true := fun line member => List.mem_takeWhile_imp member
  have whole : ofSource (first ++ '\n' :: second) =
      read ((Line.ofSource first ++ blanks.map (Line.below count)) ++
        tail.map (Line.below count)) := by
    rw [List.append_assoc, ← List.map_append, split, ofSource, Line.ofSource_append]
  have atMargin : Outlies 1 (tail.map (Line.below count)) := by
    intro line head
    rw [List.head?_map, ← List.find?_not_eq_head?_dropWhile] at head
    obtain ⟨line, found, rfl⟩ := Option.map_eq_some_iff.mp head
    obtain ⟨significant, indent⟩ := margin line found
    exact ⟨significant, Nat.lt_one_iff.mpr indent⟩
  have below : ofSource second = read tail := by
    rw [ofSource, ← split, read_blanks blank]
  have above : Padded 0 (Line.ofSource first)
      (Line.ofSource first ++ blanks.map (Line.below count)) := by
    refine ⟨blanks.map (Line.below count), ?_, by rw [List.map_id'' Line.below_zero]⟩
    intro line member
    obtain ⟨original, among, rfl⟩ := List.mem_map.mp member
    exact blank original among
  obtain ⟨documentAbove, faultAbove⟩ := above.outline
  obtain ⟨documentBelow, faultBelow⟩ := (Padded.map count tail).outline
  have zero : Fault.below 0 = id := rfl
  rw [zero, Option.map_id_fun, id] at faultAbove
  rw [whole, below]
  rcases atMargin.outline_append (Line.ofSource first ++ blanks.map (Line.below count)) with
    ⟨stays, stopped⟩ | goes
  · rw [faultAbove] at stopped
    obtain ⟨fault, found⟩ := Option.isSome_iff_exists.mp stopped
    rw [stays, faultAbove, ofSource, found]
    exact ⟨rfl, fun faultless => by cases faultless⟩
  · have declared : declarations (read (Line.ofSource first ++ blanks.map (Line.below count)) ++
        read (tail.map (Line.below count))) =
          declarations (read (Line.ofSource first ++ blanks.map (Line.below count))) ++
            declarations (read (tail.map (Line.below count))) := List.filterMap_append
    rw [goes, fault?_append, faultAbove, faultBelow, declared, Document.ofDeclarations_append,
      documentAbove, documentBelow]
    exact ⟨rfl, fun _ => rfl⟩

/-- Sources are read one after another: what the first one declares and then what the second one
declares, or the first fault, counting the lines of both. -/
theorem Document.parse_append {first second : Text} (margin : StartsAtMargin second) :
    Document.parse (first ++ '\n' :: second) =
      match Document.parse first, Document.parse second with
      | .error fault, _ => .error fault
      | .ok _, .error fault => .error (fault.below (Line.ofSource first).length)
      | .ok above, .ok below => .ok (above.followedBy below) := by
  obtain ⟨fault, document⟩ := Outline.ofSource_append first margin
  rw [Document.parse_eq, fault, Document.parse_eq first, Document.parse_eq second]
  cases above : (Outline.ofSource first).fault? with
  | some fault => rfl
  | none =>
    cases below : (Outline.ofSource second).fault? with
    | some fault => rfl
    | none => exact congrArg Except.ok (document above)

/-- A literal is open at the seam. -/
theorem Document.parse_append_below_literal :
    StartsAtMargin "\ndata Note:" ∧
      Document.parse ("interface Home:\n  show card:\n    text: |\n      Hi".toList ++
          '\n' :: "\ndata Note:".toList) =
        match Document.parse "interface Home:\n  show card:\n    text: |\n      Hi",
          Document.parse "\ndata Note:" with
        | .error fault, _ => .error fault
        | .ok _, .error fault => .error (fault.below 4)
        | .ok above, .ok below => .ok (above.followedBy below) :=
  ⟨by decide +kernel, Document.parse_append (by decide +kernel)⟩

end AppDescription
