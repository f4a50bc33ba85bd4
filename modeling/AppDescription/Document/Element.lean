import AppDescription.Document.Properties

namespace AppDescription

/-- The two spellings of a conditional. -/
inductive ConditionWord where
  | whenWord | ifWord
  deriving Repr, DecidableEq

namespace ConditionWord

def text : ConditionWord → Text
  | whenWord => "when"
  | ifWord => "if"

end ConditionWord

/-- An element of an interface. Nesting depth is unbounded. -/
inductive Element where
  /-- Something on display, with its own name or else the name of its kind. -/
  | display (kind name : Text) (properties : Properties) (children : List Element)
  /-- Elements under a condition. An absent `else` differs from an empty one. -/
  | conditional (word : ConditionWord) (condition : Text) (body : List Element)
      (otherwise : Option (List Element))
  /-- Elements repeated for each item of a collection. -/
  | iteration (item collection : Text) (body : List Element)
  deriving Repr

namespace Element

/-- The direct children, those of the main branch before those of `else`. -/
def children : Element → List Element
  | display _ _ _ children => children
  | conditional _ _ body otherwise => body ++ otherwise.getD []
  | iteration _ _ body => body

mutual

/-- The number of elements in a tree, its root included. -/
def size : Element → Nat
  | display _ _ _ children => 1 + sizeAll children
  | conditional _ _ body none => 1 + sizeAll body
  | conditional _ _ body (some otherwise) => 1 + (sizeAll body + sizeAll otherwise)
  | iteration _ _ body => 1 + sizeAll body

def sizeAll : List Element → Nat
  | [] => 0
  | element :: rest => element.size + sizeAll rest

end

theorem sizeAll_append (left right : List Element) :
    sizeAll (left ++ right) = sizeAll left + sizeAll right := by
  induction left with
  | nil => simp [sizeAll]
  | cons element rest ih => simp [sizeAll, ih, Nat.add_assoc]

theorem size_eq (element : Element) : element.size = 1 + sizeAll element.children := by
  match element with
  | display .. => rfl
  | conditional _ _ body none => simp [size, children]
  | conditional _ _ body (some otherwise) => simp [size, children, sizeAll_append]
  | iteration .. => rfl

/-- Visits every element, taking the next one from the front of the pending list and putting its
children back in front. -/
def walk : List Element → List Element
  | [] => []
  | element :: pending => element :: walk (element.children ++ pending)
termination_by pending => sizeAll pending
decreasing_by
  simp only [sizeAll, sizeAll_append, size_eq]
  omega

end Element

structure Interface where
  name : Text
  elements : List Element
  deriving Repr

namespace Interface

/-- Every element of the interface, each before its children. -/
def walk (interface : Interface) : List Element :=
  Element.walk interface.elements

end Interface

end AppDescription
