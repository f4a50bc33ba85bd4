import Mathlib.Data.List.Flatten
import Mathlib.Data.List.Forall2
import AppDescription.Proofs.Announcement
import AppDescription.Proofs.ElementNodes

namespace AppDescription

/-- A header stands for an element, whatever is in its body. What the header assigns comes before
the properties in the body. -/
def ElementHeader.Titles : ElementHeader → Element → Prop
  | .display kind name content, .display kind' name' properties _ =>
    kind' = kind ∧ name' = name.getD kind ∧ ∃ assignments,
      properties = Properties.ofAssignments (Node.headerAssignments name content ++ assignments)
  | .conditional word condition, .conditional word' condition' _ _ =>
    word' = word ∧ condition' = condition
  | .iteration item collection, .iteration item' collection' _ =>
    item' = item ∧ collection' = collection
  | _, _ => False

theorem ElementHeader.read?_ne_none {keyword text : Text} (among : keyword ∈ elementWords) :
    read? keyword text ≠ none := by
  unfold read?
  split_ifs with isShow isFor isWhen isIf
  · exact Option.some_ne_none _
  · exact Option.some_ne_none _
  · exact Option.some_ne_none _
  · exact Option.some_ne_none _
  · simp only [elementWords, List.mem_cons, List.not_mem_nil, or_false, isShow, isFor, isWhen,
      isIf] at among

namespace Line

/-- The line is the header of the element. -/
def Heads (line : Line) (element : Element) : Prop :=
  ∃ header, BodyRole.ofLine line = .opens header ∧ header.Titles element

/-- Whether a line starts with the word of an element. -/
def startsElement (line : Line) : Bool :=
  line.keyword?.any elementWords.contains

theorem startsElement_iff {line : Line} : line.startsElement = true ↔
    (∃ header, BodyRole.ofLine line = .opens header) ∨
      ∃ cause, BodyRole.ofLine line = .malformed cause := by
  constructor
  · intro starts
    obtain ⟨keyword, word, among⟩ := (Option.any_eq_true _ _).mp starts
    have significant : line.isSignificant := LineKind.isSignificant_of_keyword? word
    have read : ElementHeader.read? keyword line.text ≠ none :=
      ElementHeader.read?_ne_none (by simpa using among)
    simp only [BodyRole.ofLine, significant, if_true, word, Option.bind_some]
    rcases found : ElementHeader.read? keyword line.text with _ | cause | header
    · exact absurd found read
    · exact .inr ⟨cause, rfl⟩
    · exact .inl ⟨header, rfl⟩
  · intro role
    have read : ∃ outcome, (line.keyword?.bind fun keyword =>
        ElementHeader.read? keyword line.text) = some outcome := by
      rcases role with ⟨header, opens⟩ | ⟨cause, malformed⟩
      · exact ⟨_, BodyRole.ofLine_opens opens⟩
      · exact ⟨_, BodyRole.ofLine_malformed malformed⟩
    obtain ⟨outcome, found⟩ := read
    obtain ⟨keyword, word, taken⟩ := Option.bind_eq_some_iff.mp found
    refine (Option.any_eq_true _ _).mpr ⟨keyword, word, ?_⟩
    by_contra plain
    rw [ElementHeader.read?_plain (by simpa using plain)] at taken
    cases taken

end Line

namespace Node

theorem ofHeader_titles (header : ElementHeader) (line : Line) (below : List Line) :
    ∃ element, (ofHeader header line below).1.element? = some element ∧ header.Titles element := by
  cases header with
  | display kind name content => exact ⟨_, rfl, rfl, rfl, _, rfl⟩
  | iteration item collection => exact ⟨_, rfl, rfl, rfl⟩
  | conditional word condition =>
    unfold ofHeader
    dsimp only
    split <;> exact ⟨_, rfl, rfl, rfl⟩

/-- What the reading of a line goes on with is the end of the lines below it, or the members that
stand at the start of such an end. -/
theorem parts_cases {line : Line} {rest part : List Line} (among : part ∈ parts line rest) :
    part <:+ rest ∨
      line.isSignificant ∧ ∃ more, more <:+ rest ∧ part = members line.inner more := by
  unfold parts at among
  cases role : BodyRole.ofLine line <;> rw [role] at among
  case ignored | property => exact .inl (List.mem_singleton.mp among ▸ List.suffix_refl rest)
  case closed | looseElse => exact .inl (List.mem_singleton.mp among ▸ afterBlock_suffix _ _)
  case literal => exact .inl (List.mem_singleton.mp among ▸ afterLiteral_suffix _ _)
  case malformed => cases among
  case opens header =>
    have significant : line.isSignificant := BodyRole.significant_of_ofLine (by simp [role])
    rcases List.mem_cons.mp among with rfl | later
    · exact .inr ⟨significant, rest, List.suffix_refl rest, rfl⟩
    · have after := afterMembers_suffix line.inner rest
      cases header with
      | display | iteration => exact .inl (List.mem_singleton.mp later ▸ after)
      | conditional word condition =>
        simp only [ElementHeader.further] at later
        cases found : elseBranch? line.indent (afterMembers line.inner rest) <;> rw [found] at later
        case none => exact .inl (List.mem_singleton.mp later ▸ after)
        case some branch =>
          have more := ((List.suffix_cons _ _).trans (elseBranch?_suffix found)).trans after
          rcases List.mem_cons.mp later with rfl | last
          · exact .inr ⟨significant, branch.2, more, rfl⟩
          · exact .inl (List.mem_singleton.mp last ▸ (afterMembers_suffix _ _).trans more)

/-- Lines that a body may hold at a level, up to where it ends. -/
structure Bounded (level : Nat) (lines tail : List Line) : Prop where
  inside : ∀ line ∈ lines, line.within level = true
  ended : Outlies level tail

theorem Bounded.suffix {level : Nat} {lines tail part : List Line} (bounded : Bounded level lines tail)
    (suffix : part <:+ lines) : Bounded level part tail :=
  ⟨fun line member => bounded.inside line (suffix.subset member), bounded.ended⟩

/-- Members are followed by a line that ends them, or else by what ends the lines around them. -/
theorem Bounded.members {level least : Nat} {lines tail : List Line}
    (bounded : Bounded level lines tail) (deep : level ≤ least) :
    ∃ level' above tail', lines ++ tail = above ++ (members least lines ++ tail') ∧
      Bounded level' (members least lines) tail' := by
  unfold AppDescription.members
  cases base : baseline? least lines with
  | none => exact ⟨0, lines ++ tail, [], by simp, by simp, .nil⟩
  | some depth =>
    refine ⟨depth, [], afterBlock depth lines ++ tail, ?_, fun _ => List.mem_takeWhile_imp, ?_⟩
    · rw [List.nil_append, ← List.append_assoc, block_append_afterBlock]
    · intro line first
      cases left : afterBlock depth lines with
      | cons other more =>
        rw [left] at first
        exact afterBlock_outlies depth lines line (left ▸ first)
      | nil =>
        rw [left] at first
        obtain ⟨significant, shallow⟩ := bounded.ended line first
        exact ⟨significant, by have := baseline?_ge base; omega⟩

/-- Every element of a body is the one that its header opens over all that stands below it, no
matter where the body ends. -/
theorem exists_place {level : Nat} {lines tail : List Line} {node : Node}
    (bounded : Bounded level lines tail) (among : node ∈ preorderAll (read lines)) :
    ∃ above line below header, lines ++ tail = above ++ line :: below ∧
      BodyRole.ofLine line = .opens header ∧ (ofHeader header line below).1 = node := by
  induction size : lines.length using Nat.strong_induction_on generalizing lines tail level with
  | _ size ih =>
    cases lines with
    | nil => simp [preorderAll] at among
    | cons line rest =>
      rw [List.length_cons] at size
      rw [preorderAll_read_cons] at among
      rcases List.mem_append.mp among with own | inPart
      · cases role : BodyRole.ofLine line <;> rw [role] at own
        case opens header =>
          have significant : line.isSignificant := BodyRole.significant_of_ofLine (by simp [role])
          have reach := (Line.within_iff significant).mp (bounded.inside line List.mem_cons_self)
          refine ⟨[], line, rest ++ tail, header, rfl, role, ?_⟩
          rw [bounded.ended.ofHeader_append reach, List.mem_singleton.mp own]
          rfl
        all_goals cases own
      · obtain ⟨part, taken, inside⟩ := List.mem_flatMap.mp inPart
        have shorter := (part_sublist taken).length_le
        have below := bounded.suffix (List.suffix_cons line rest)
        have within {level' : Nat} {above tail' : List Line} (bounded' : Bounded level' part tail')
            (whole : rest ++ tail = above ++ (part ++ tail')) :
            ∃ above line' below header, line :: rest ++ tail = above ++ line' :: below ∧
              BodyRole.ofLine line' = .opens header ∧ (ofHeader header line' below).1 = node := by
          obtain ⟨above', line', below, header, place, role, same⟩ :=
            ih part.length (by omega) bounded' inside rfl
          refine ⟨line :: above ++ above', line', below, header, ?_, role, same⟩
          rw [List.cons_append, whole, place, List.cons_append, List.cons_append, List.append_assoc]
        rcases parts_cases taken with suffix | ⟨significant, more, suffix, rfl⟩
        · obtain ⟨above, rfl⟩ := suffix
          exact within (below.suffix (List.suffix_append above part)) (List.append_assoc _ _ _)
        · have reach := (Line.within_iff significant).mp (bounded.inside line List.mem_cons_self)
          have deep : level ≤ line.inner := reach.trans (Nat.le_succ _)
          obtain ⟨level', above, tail', whole, bounded'⟩ := (below.suffix suffix).members deep
          obtain ⟨front, rfl⟩ := suffix
          exact within bounded' (by rw [List.append_assoc, whole, ← List.append_assoc])

/-- An element with its node: the header of the one is the header of the other. -/
theorem exists_heads {lines : List Line} {node : Node} (among : node ∈ preorderAll (read lines)) :
    ∃ line element, node.headerLine? = some line ∧ node.element? = some element ∧
      line.Heads element := by
  have bounded : Bounded 0 lines [] := ⟨fun line _ => by simp [Line.within], .nil⟩
  obtain ⟨_, line, below, header, _, role, rfl⟩ := exists_place bounded among
  obtain ⟨element, stands, titles⟩ := ofHeader_titles header line below
  exact ⟨line, element, headerLine?_ofHeader header line below, stands, header, role, titles⟩

/-- Elements whose nodes all have a place go together with these places, which start with the lines of
the headers. -/
theorem exists_places {α : Type} (lineOf : α → Line) {rel : α → Element → Prop}
    {nodes : List Node} {elements : List Element}
    (placed : ∀ node ∈ nodes, ∃ here element, node.headerLine? = some (lineOf here) ∧
      node.element? = some element ∧ rel here element)
    (same : nodes.map element? = elements.map some) :
    ∃ places, places.map lineOf = nodes.filterMap headerLine? ∧ List.Forall₂ rel places elements := by
  induction nodes generalizing elements with
  | nil =>
    rw [List.map_nil, eq_comm, List.map_eq_nil_iff] at same
    rw [same]
    exact ⟨[], rfl, .nil⟩
  | cons node nodes ih =>
    obtain ⟨⟨here, element, header, stands, holds⟩, others⟩ := List.forall_mem_cons.mp placed
    cases elements with
    | nil => cases same
    | cons other elements =>
      obtain ⟨first, later⟩ := List.cons.inj same
      cases stands.symm.trans first
      obtain ⟨places, lines, paired⟩ := ih others later
      refine ⟨here :: places, ?_, .cons holds paired⟩
      rw [List.map_cons, lines, List.filterMap_cons_some header]

theorem heads_paired {nodes : List Node} {elements : List Element}
    (headed : ∀ node ∈ nodes, ∃ line element, node.headerLine? = some line ∧
      node.element? = some element ∧ line.Heads element)
    (same : nodes.map element? = elements.map some) :
    List.Forall₂ Line.Heads (nodes.filterMap headerLine?) elements := by
  obtain ⟨places, lines, paired⟩ := exists_places id headed same
  rw [← lines, List.map_id]
  exact paired

/-- The lines that the headers of a body stand on, in reading order. -/
def headerLines (nodes : List Node) : List Line :=
  (preorderAll nodes).filterMap headerLine?

theorem headerLines_read_cons (line : Line) (rest : List Line) :
    headerLines (read (line :: rest)) =
      (match BodyRole.ofLine line with
        | .opens _ => [line]
        | _ => []) ++ (parts line rest).flatMap fun part => headerLines (read part) := by
  unfold headerLines
  rw [preorderAll_read_cons, List.filterMap_append, List.filterMap_flatMap]
  cases role : BodyRole.ofLine line with
  | opens header => simp only [List.filterMap_cons_some (headerLine?_ofHeader _ _ _), List.filterMap_nil]
  | _ => rfl

theorem headerLines_paired (lines : List Line) :
    List.Forall₂ Line.Heads (headerLines (read lines)) (Element.walk (elements (read lines))) :=
  heads_paired (fun _ => exists_heads) (preorderAll_walk (read lines))

/-- The headers of a body stand on lines of the body, in order and each on a line of its own. -/
theorem headerLines_sublist (lines : List Line) :
    (headerLines (read lines)).Sublist (lines.filter Line.startsElement) := by
  induction size : lines.length using Nat.strong_induction_on generalizing lines with
  | _ size ih =>
    cases lines with
    | nil => simp [headerLines, preorderAll]
    | cons line rest =>
      rw [List.length_cons] at size
      have below : ((parts line rest).flatMap fun part => headerLines (read part)).Sublist
          (rest.filter Line.startsElement) := by
        refine .trans ?_ ((parts_flatten line rest).filter Line.startsElement)
        rw [List.filter_flatten, ← List.flatMap_def]
        refine List.Sublist.flatMap_right _ fun part among => ?_
        have shorter := (part_sublist among).length_le
        exact ih part.length (by omega) part rfl
      rw [headerLines_read_cons]
      cases role : BodyRole.ofLine line with
      | opens header =>
        have starts : line.startsElement = true := Line.startsElement_iff.mpr (.inl ⟨header, role⟩)
        rw [List.filter_cons_of_pos starts]
        exact below.cons_cons line
      | _ => exact below.trans ((List.sublist_cons_self line rest).filter _)

end Node

end AppDescription
