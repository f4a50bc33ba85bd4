import AppDescription.Proofs.Directives
import AppDescription.Proofs.Outlying
import AppDescription.Proofs.Parts

namespace AppDescription

namespace Node

/-- The line of the header, for a node that is an element. -/
def headerLine? : Node → Option Line
  | display line .. | conditional line .. | choice line .. | iteration line .. => some line
  | property .. | looseElse _ | malformed .. => none

mutual

/-- The elements in a node, each before those inside it. -/
def preorder : Node → List Node
  | display line kind name content body =>
    display line kind name content body :: preorderAll body
  | conditional line word condition body =>
    conditional line word condition body :: preorderAll body
  | choice line word condition body elseLine otherwise =>
    choice line word condition body elseLine otherwise ::
      (preorderAll body ++ preorderAll otherwise)
  | iteration line item collection body =>
    iteration line item collection body :: preorderAll body
  | property .. | looseElse _ | malformed .. => []

def preorderAll : List Node → List Node
  | [] => []
  | node :: rest => node.preorder ++ preorderAll rest

end

mutual

/-- The elements that a node stands for are visited in the order of their nodes. -/
theorem preorder_walk : ∀ node : Node,
    (preorder node).map element? = (Element.walk node.element?.toList).map some
  | display line kind name content body => by
    simp [preorder, element?, Element.walk, Element.children, preorderAll_walk body]
  | conditional line word condition body => by
    simp [preorder, element?, Element.walk, Element.children, preorderAll_walk body]
  | choice line word condition body elseLine otherwise => by
    simp [preorder, element?, Element.walk, Element.children, Element.walk_append,
      preorderAll_walk body, preorderAll_walk otherwise]
  | iteration line item collection body => by
    simp [preorder, element?, Element.walk, Element.children, preorderAll_walk body]
  | property .. | looseElse _ | malformed .. => by simp [preorder, element?, Element.walk]

theorem preorderAll_walk : ∀ nodes : List Node,
    (preorderAll nodes).map element? = (Element.walk (elements nodes)).map some
  | [] => by simp [preorderAll, elements, Element.walk]
  | node :: rest => by
    have whole : elements (node :: rest) = node.element?.toList ++ elements rest := by
      cases found : node.element? <;> simp [elements, found]
    rw [preorderAll, List.map_append, preorder_walk node, preorderAll_walk rest, whole,
      Element.walk_append, List.map_append]

end

theorem preorderAll_cons (node : Node) (nodes : List Node) :
    preorderAll (node :: nodes) = node.preorder ++ preorderAll nodes := by
  rw [preorderAll]

/-- An element comes before those in its parts, and these come in the order of the parts. -/
theorem preorder_ofHeader (header : ElementHeader) (line : Line) (below : List Line) :
    preorder (ofHeader header line below).1 ++ preorderAll (read (ofHeader header line below).2) =
      (ofHeader header line below).1 ::
        (header.parts line below).flatMap fun part => preorderAll (read part) := by
  cases header with
  | display kind name content | iteration item collection =>
    simp [ofHeader, preorder, ElementHeader.parts, ElementHeader.further]
  | conditional word condition =>
    simp only [ofHeader, ElementHeader.parts, ElementHeader.further]
    cases elseBranch? line.indent (afterMembers line.inner below) <;> simp [preorder]

/-- The elements of a body are that of its first line, if the line opens one, and those in the
parts that its reading goes on with. -/
theorem preorderAll_read_cons (line : Line) (rest : List Line) :
    preorderAll (read (line :: rest)) =
      (match BodyRole.ofLine line with
        | .opens header => [(ofHeader header line rest).1]
        | _ => []) ++ (parts line rest).flatMap fun part => preorderAll (read part) := by
  cases role : BodyRole.ofLine line with
  | opens header =>
    rw [read_opens role, preorderAll_cons, preorder_ofHeader, parts, role]
    rfl
  | ignored => simp [read_ignored role, parts, role]
  | closed => simp [read_closed role, parts, role]
  | looseElse => simp [read_looseElse role, parts, role, preorderAll_cons, preorder]
  | property key value => simp [read_property role, parts, role, preorderAll_cons, preorder]
  | literal key => simp [read_literal role, parts, role, preorderAll_cons, preorder]
  | malformed cause => simp [read_malformed role, parts, role, preorderAll_cons, preorder, preorderAll]

theorem headerLine?_ofHeader (header : ElementHeader) (line : Line) (below : List Line) :
    (ofHeader header line below).1.headerLine? = some line := by
  cases header with
  | display | iteration => rfl
  | conditional =>
    unfold ofHeader
    dsimp only
    split <;> rfl

end Node

end AppDescription
