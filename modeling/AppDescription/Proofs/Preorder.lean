import AppDescription.Proofs.Directives

namespace AppDescription.Element

mutual

/-- An element and everything inside it, one branch after the other. -/
def preorder : Element → List Element
  | element@(.display _ _ _ children) => element :: preorderAll children
  | element@(.conditional _ _ body none) => element :: preorderAll body
  | element@(.conditional _ _ body (some otherwise)) =>
    element :: (preorderAll body ++ preorderAll otherwise)
  | element@(.iteration _ _ body) => element :: preorderAll body

def preorderAll : List Element → List Element
  | [] => []
  | element :: rest => element.preorder ++ preorderAll rest

end

mutual

theorem walk_singleton : ∀ element : Element, walk [element] = element.preorder
  | .display _ _ _ children => by
    rw [walk, preorder, Element.children, List.append_nil, walk_eq_preorderAll children]
  | .conditional _ _ body none => by
    rw [walk, preorder, Element.children, Option.getD_none, List.append_nil, List.append_nil,
      walk_eq_preorderAll body]
  | .conditional _ _ body (some otherwise) => by
    rw [walk, preorder, Element.children, Option.getD_some, List.append_nil, walk_append,
      walk_eq_preorderAll body, walk_eq_preorderAll otherwise]
  | .iteration _ _ body => by
    rw [walk, preorder, Element.children, List.append_nil, walk_eq_preorderAll body]

/-- Visiting with a list of what is pending gives each element before what is inside it. -/
theorem walk_eq_preorderAll : ∀ forest : List Element, walk forest = preorderAll forest
  | [] => by rw [walk, preorderAll]
  | element :: rest => by
    rw [← List.singleton_append, walk_append, walk_singleton element, walk_eq_preorderAll rest,
      List.singleton_append, preorderAll]

end

/-- How far a visit has come: the elements found, and the stack of those to visit, the next one
last. -/
structure Visit where
  found : List Element
  stack : List Element

namespace Visit

def start (forest : List Element) : Visit :=
  ⟨[], forest.reverse⟩

/-- The element on top of the stack is found, and its children take its place, the first of them on
top. -/
def step (visit : Visit) : Option Visit :=
  visit.stack.getLast?.map fun element =>
    ⟨visit.found ++ [element], visit.stack.dropLast ++ element.children.reverse⟩

/-- A visit that goes on for some number of steps and cannot go on then. -/
inductive Ends : Nat → Visit → Visit → Prop
  | here {visit} : visit.step = none → Ends 0 visit visit
  | next {steps visit after last} : visit.step = some after → Ends steps after last →
      Ends (steps + 1) visit last

end Visit

end AppDescription.Element
