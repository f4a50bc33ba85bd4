import AppDescription.Proofs.NodeReading
import AppDescription.Proofs.OutlineReading

namespace AppDescription

namespace ElementHeader

/-- What is read after the body of an element: the body of its `else`, if it has one, and what it
leaves to others. -/
def further (header : ElementHeader) (line : Line) (after : List Line) : List (List Line) :=
  match header with
  | .display .. | .iteration .. => [after]
  | .conditional .. =>
    match elseBranch? line.indent after with
    | none => [after]
    | some (_, more) => [members line.inner more, afterMembers line.inner more]

/-- The lines of an element and those below it in the parts that are read one after another. -/
def parts (header : ElementHeader) (line : Line) (below : List Line) : List (List Line) :=
  members line.inner below :: header.further line (afterMembers line.inner below)

theorem further_flatten (header : ElementHeader) (line : Line) (after : List Line) :
    (header.further line after).flatten.Sublist after := by
  cases header with
  | display kind name content => simp [further]
  | iteration item collection => simp [further]
  | conditional word condition =>
    unfold further
    dsimp only
    split
    · simp
    · rename_i elseLine more found
      have below := (List.suffix_cons _ _).trans (elseBranch?_suffix found)
      simpa [members_append_afterMembers] using below.sublist

theorem parts_flatten (header : ElementHeader) (line : Line) (below : List Line) :
    (header.parts line below).flatten.Sublist below := by
  have further := (header.further_flatten line (afterMembers line.inner below)).append_left
    (members line.inner below)
  rwa [members_append_afterMembers] at further

end ElementHeader

namespace Node

/-- What reading a line of a body goes on with: the parts of the element that the line opens, or
what follows the lines that belong to it. Nothing is read after a malformed line. -/
def parts (line : Line) (rest : List Line) : List (List Line) :=
  match BodyRole.ofLine line with
  | .ignored | .property .. => [rest]
  | .closed | .looseElse => [afterBlock line.inner rest]
  | .literal _ => [afterLiteral line.inner rest]
  | .malformed _ => []
  | .opens header => header.parts line rest

/-- No line is in two parts. -/
theorem parts_flatten (line : Line) (rest : List Line) : (parts line rest).flatten.Sublist rest := by
  unfold parts
  split
  · simp
  · simp
  · simpa using (afterBlock_suffix _ _).sublist
  · simpa using (afterBlock_suffix _ _).sublist
  · simpa using (afterLiteral_suffix _ _).sublist
  · simp
  · exact ElementHeader.parts_flatten _ _ _

theorem part_sublist {line : Line} {rest part : List Line} (among : part ∈ parts line rest) :
    part.Sublist rest :=
  (List.sublist_flatten_of_mem among).trans (parts_flatten line rest)

/-- The first fault of a body, where its reading stops. -/
def fault? (nodes : List Node) : Option Fault :=
  Finding.firstFault? (allFindings nodes)

@[simp]
theorem fault?_nil : fault? [] = none := rfl

theorem fault?_cons (node : Node) (nodes : List Node) :
    fault? (node :: nodes) = (fault? [node]).or (fault? nodes) := by
  unfold fault?
  rw [allFindings_cons, Finding.firstFault?_append]

theorem findSome?_cons_eq_or (find : α → Option β) (x : α) (list : List α) :
    (x :: list).findSome? find = (find x).or (list.findSome? find) := by
  rw [← List.singleton_append, List.findSome?_append, List.findSome?_singleton]

theorem fault?_singleton (node : Node) : fault? [node] = Finding.firstFault? node.findings := by
  simp only [fault?, allFindings, List.append_nil]

/-- The first fault of an element and of what stands below it is the first one in its parts. -/
theorem fault?_ofHeader (header : ElementHeader) (line : Line) (below : List Line) :
    (fault? [(ofHeader header line below).1]).or (fault? (read (ofHeader header line below).2)) =
      (header.parts line below).findSome? fun part => fault? (read part) := by
  cases header with
  | display kind name content | iteration item collection =>
    simp only [ofHeader, ElementHeader.parts, ElementHeader.further, findSome?_cons_eq_or,
      List.findSome?_nil, Option.or_none, fault?_singleton, findings]
    rfl
  | conditional word condition =>
    simp only [ofHeader, ElementHeader.parts, ElementHeader.further]
    cases elseBranch? line.indent (afterMembers line.inner below) with
    | none =>
      simp only [findSome?_cons_eq_or, List.findSome?_nil, Option.or_none, fault?_singleton,
        findings]
      rfl
    | some parts =>
      simp only [findSome?_cons_eq_or, List.findSome?_nil, Option.or_none, fault?_singleton,
        findings, Finding.firstFault?_append, Option.or_assoc]
      rfl

/-- Reading stops at a malformed line, and otherwise at the first fault in the parts. -/
theorem fault?_read_cons (line : Line) (rest : List Line) :
    fault? (read (line :: rest)) =
      match BodyRole.ofLine line with
      | .malformed cause => some ⟨line, cause⟩
      | _ => (parts line rest).findSome? fun part => fault? (read part) := by
  cases role : BodyRole.ofLine line with
  | ignored => simp only [read_ignored role, parts, role, List.findSome?_singleton]
  | closed => simp only [read_closed role, parts, role, List.findSome?_singleton]
  | looseElse =>
    simp only [read_looseElse role, parts, role, List.findSome?_singleton]
    exact fault?_cons _ _
  | property key value =>
    simp only [read_property role, parts, role, List.findSome?_singleton]
    exact fault?_cons _ _
  | literal key =>
    simp only [read_literal role, parts, role, List.findSome?_singleton]
    exact fault?_cons _ _
  | malformed cause => simp only [read_malformed role]; rfl
  | opens header =>
    simp only [read_opens role, parts, role]
    rw [fault?_cons]
    exact fault?_ofHeader header line rest

/-- A fault stands on a malformed line of the body, and it is the fault of that line. -/
theorem mem_of_fault? {lines : List Line} {fault : Fault} (found : fault? (read lines) = some fault) :
    fault.line ∈ lines ∧ BodyRole.ofLine fault.line = .malformed fault.cause := by
  induction size : lines.length using Nat.strong_induction_on generalizing lines with
  | _ size ih =>
    cases lines with
    | nil => simp at found
    | cons line rest =>
      rw [fault?_read_cons] at found
      split at found
      · rename_i cause role
        cases found
        exact ⟨List.mem_cons_self, role⟩
      · obtain ⟨part, among, found⟩ := List.exists_of_findSome?_eq_some found
        have sub := part_sublist among
        have shorter := sub.length_le
        simp only [List.length_cons] at size
        obtain ⟨member, role⟩ := ih part.length (by omega) found rfl
        exact ⟨List.mem_cons_of_mem _ (sub.subset member), role⟩

end Node

end AppDescription
