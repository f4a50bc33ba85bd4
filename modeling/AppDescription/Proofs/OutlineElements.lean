import AppDescription.Proofs.FaultLine
import AppDescription.Proofs.HeaderLines

namespace AppDescription

namespace Declaration

/-- The elements of a declaration in reading order. Only an interface has any. -/
def elementNodes : Declaration → List Node
  | interface block => Node.preorderAll block.body
  | _ => []

variable {kind : DeclarationKind} {header : Line} {below rest : List Line}
  {declaration : Declaration}

theorem elementNodes_of_read (reading : read kind header below = .ok (declaration, rest)) :
    declaration.elementNodes = Node.preorderAll (Node.read (inside kind header below)) := by
  cases kind <;> obtain ⟨⟨value, left⟩, inner, same⟩ := Except.map_eq_ok_iff.mp reading <;>
    cases same
  case interface =>
    rw [readInterface_eq] at inner
    obtain ⟨name, more, _, taken⟩ := readHeaded_eq_ok.mp inner
    cases taken
    rfl
  all_goals simp [elementNodes, inside, Node.preorderAll]

theorem leave_of_read (reading : read kind header below = .ok (declaration, rest)) :
    rest = leave kind header below := by
  rcases read_fromHeader kind header with ⟨cause, fails⟩ | reads
  · cases (fails below).symm.trans reading
  · obtain ⟨value, same⟩ := reads below
    cases same.symm.trans reading
    rfl

/-- What is read inside a declaration stands above what it leaves. -/
theorem inside_leave_sublist (kind : DeclarationKind) (header : Line) (below : List Line) :
    (inside kind header below ++ leave kind header below).Sublist below := by
  have left := (leave_suffix kind header below).sublist
  cases kind with
  | interface => exact (members_append_afterMembers _ _).symm ▸ List.Sublist.refl below
  | _ => exact left

theorem exists_place_inside {node : Node}
    (among : node ∈ Node.preorderAll (Node.read (inside kind header below))) :
    ∃ above line after opening, below = above ++ line :: after ∧
      BodyRole.ofLine line = .opens opening ∧ (Node.ofHeader opening line after).1 = node := by
  cases kind with
  | interface =>
    have whole : Node.Bounded 0 below [] := ⟨fun line _ => by simp [Line.within], .nil⟩
    obtain ⟨_, above, tail, split, bounded⟩ := whole.members (Nat.zero_le header.inner)
    obtain ⟨above', line, after, opening, place, role, same⟩ := Node.exists_place bounded among
    refine ⟨above ++ above', line, after, opening, ?_, role, same⟩
    rw [List.append_assoc, ← place, ← split, List.append_nil]
  | _ => simp [inside, Node.preorderAll] at among

end Declaration

namespace Outline

/-- The elements of an outline in reading order. -/
def elementNodes (outline : Outline) : List Node :=
  outline.declarations.flatMap Declaration.elementNodes

/-- The elements of a document are visited in the order of their nodes. -/
theorem elementNodes_walk (outline : Outline) : outline.elementNodes.map Node.element? =
    ((Document.ofDeclarations outline.declarations).interfaces.flatMap Interface.walk).map some := by
  unfold elementNodes Document.ofDeclarations
  dsimp only
  induction outline.declarations with
  | nil => rfl
  | cons declaration declarations ih =>
    rw [List.flatMap_cons, List.map_append, ih]
    cases declaration with
    | interface block =>
      simp only [List.filterMap_cons, List.flatMap_cons, List.map_append]
      exact congrArg (· ++ _) (Node.preorderAll_walk block.body)
    | _ => rfl

/-- Reading by strong induction on the lines: a line that is passed over leaves an end of the lines
below it, and a declaration leaves such an end as well. -/
theorem byLines {motive : List Line → Prop} (nil : motive [])
    (skipped : ∀ line rest left, left <:+ rest → (read (line :: rest)).elementNodes =
      (read left).elementNodes → motive left → motive (line :: rest))
    (declared : ∀ line rest kind, (read (line :: rest)).elementNodes =
      Node.preorderAll (Node.read (Declaration.inside kind line rest)) ++
        (read (Declaration.leave kind line rest)).elementNodes →
      motive (Declaration.leave kind line rest) → motive (line :: rest))
    (malformed : ∀ line rest, (read (line :: rest)).elementNodes = [] → motive (line :: rest))
    (lines : List Line) : motive lines := by
  induction size : lines.length using Nat.strong_induction_on generalizing lines with
  | _ size ih =>
    cases lines with
    | nil => exact nil
    | cons line rest =>
      rw [List.length_cons] at size
      have shorter {left : List Line} (suffix : left <:+ rest) : motive left :=
        ih left.length (by have := suffix.length_le; omega) left rfl
      by_cases significant : line.isSignificant
      · cases declares : line.declarationKind? with
        | none =>
          have suffix := afterBlock_suffix line.inner rest
          refine skipped line rest _ suffix ?_ (shorter suffix)
          rw [read_unknown significant declares]
          rfl
        | some kind =>
          cases reading : Declaration.read kind line rest with
          | error cause =>
            refine malformed line rest ?_
            rw [read_malformed significant declares reading]
            rfl
          | ok parts =>
            obtain ⟨declaration, left⟩ := parts
            refine declared line rest kind ?_ (shorter (Declaration.leave_suffix kind line rest))
            rw [read_declared significant declares reading, ← Declaration.elementNodes_of_read reading,
              ← Declaration.leave_of_read reading]
            rfl
      · have suffix := List.suffix_refl rest
        refine skipped line rest rest suffix ?_ (shorter suffix)
        rw [read_insignificant significant]

/-- Every element of an outline is the one that its header opens over all that stands below it. -/
theorem exists_place {lines : List Line} {node : Node} (among : node ∈ (read lines).elementNodes) :
    ∃ above line below header, lines = above ++ line :: below ∧
      BodyRole.ofLine line = .opens header ∧ (Node.ofHeader header line below).1 = node := by
  have later {line : Line} {rest left : List Line} (suffix : left <:+ rest)
      (found : ∃ above other below header, left = above ++ other :: below ∧
        BodyRole.ofLine other = .opens header ∧ (Node.ofHeader header other below).1 = node) :
      ∃ above other below header, line :: rest = above ++ other :: below ∧
        BodyRole.ofLine other = .opens header ∧ (Node.ofHeader header other below).1 = node := by
    obtain ⟨front, rfl⟩ := suffix
    obtain ⟨above, other, below, header, rfl, role, same⟩ := found
    exact ⟨line :: (front ++ above), other, below, header, by simp, role, same⟩
  induction lines using byLines with
  | nil => simp [elementNodes, declarations] at among
  | skipped line rest left suffix same ih => exact later suffix (ih (same ▸ among))
  | declared line rest kind same ih =>
    rw [same] at among
    rcases List.mem_append.mp among with inside | after
    · exact later (List.suffix_refl rest) (Declaration.exists_place_inside inside)
    · exact later (Declaration.leave_suffix kind line rest) (ih after)
  | malformed line rest same =>
    rw [same] at among
    cases among

theorem exists_heads {lines : List Line} {node : Node} (among : node ∈ (read lines).elementNodes) :
    ∃ line element, node.headerLine? = some line ∧ node.element? = some element ∧
      line.Heads element := by
  obtain ⟨_, line, below, header, _, role, rfl⟩ := exists_place among
  obtain ⟨element, stands, titles⟩ := Node.ofHeader_titles header line below
  exact ⟨line, element, Node.headerLine?_ofHeader header line below, stands, header, role, titles⟩

/-- The headers of all elements stand on lines of the source, in order and each on a line of its
own. -/
theorem headerLines_sublist (lines : List Line) :
    ((read lines).elementNodes.filterMap Node.headerLine?).Sublist
      (lines.filter Line.startsElement) := by
  induction lines using byLines with
  | nil => simp [elementNodes, declarations]
  | skipped line rest left suffix same ih =>
    rw [same]
    exact ih.trans ((suffix.trans (List.suffix_cons line rest)).sublist.filter _)
  | declared line rest kind same ih =>
    rw [same, List.filterMap_append]
    have both := (Node.headerLines_sublist (Declaration.inside kind line rest)).append ih
    rw [Node.headerLines, ← List.filter_append] at both
    have below := (Declaration.inside_leave_sublist kind line rest).cons line
    exact both.trans (below.filter _)
  | malformed line rest same => simp [same]

end Outline

end AppDescription
