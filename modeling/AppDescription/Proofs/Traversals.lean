import AppDescription.Command
import AppDescription.Proofs.PageEntries
import AppDescription.Proofs.Preorder

namespace AppDescription

/-- A row of an element list, for what it is. -/
inductive ListRow where
  | element (depth : Nat) (element : Element)
  | otherwise (depth : Nat)

namespace ListRow

def line : ListRow → Text
  | element depth listed => listLine depth listed.label
  | otherwise depth => listLine depth "else"

def element? : ListRow → Option Element
  | element _ listed => some listed
  | otherwise _ => none

def isElse : ListRow → Bool
  | element .. => false
  | otherwise _ => true

theorem elements_element (depth : Nat) (listed : Element) (rows : List ListRow) :
    (element depth listed :: rows).filterMap element? = listed :: rows.filterMap element? := rfl

theorem elements_otherwise (depth : Nat) (rows : List ListRow) :
    (otherwise depth :: rows).filterMap element? = rows.filterMap element? := rfl

end ListRow

namespace Element

/-- Whether an element has an `else`, be it empty. -/
def hasElse : Element → Bool
  | .conditional _ _ _ (some _) => true
  | .conditional _ _ _ none | .display .. | .iteration .. => false

mutual

def listRows (depth : Nat) : Element → List ListRow
  | element@(.display _ _ _ children) =>
    .element depth element :: forestListRows (depth + 1) children
  | element@(.conditional _ _ body none) =>
    .element depth element :: forestListRows (depth + 1) body
  | element@(.conditional _ _ body (some otherwise)) =>
    .element depth element :: forestListRows (depth + 1) body ++
      .otherwise depth :: forestListRows (depth + 1) otherwise
  | element@(.iteration _ _ body) => .element depth element :: forestListRows (depth + 1) body

def forestListRows (depth : Nat) : List Element → List ListRow
  | [] => []
  | element :: rest => element.listRows depth ++ forestListRows depth rest

end

mutual

/-- The rows of an element are the lines that list it. -/
theorem listRows_line (depth : Nat) : ∀ element : Element,
    (element.listRows depth).map ListRow.line = element.listLines depth
  | .display _ _ _ children => by
    rw [listRows, listLines, List.map_cons, forestListRows_line (depth + 1) children, ListRow.line]
  | .conditional _ _ body none => by
    rw [listRows, listLines, List.map_cons, forestListRows_line (depth + 1) body, ListRow.line]
  | .conditional _ _ body (some otherwise) => by
    rw [listRows, listLines, List.map_append, List.map_cons, List.map_cons,
      forestListRows_line (depth + 1) body, forestListRows_line (depth + 1) otherwise,
      ListRow.line, ListRow.line]
  | .iteration _ _ body => by
    rw [listRows, listLines, List.map_cons, forestListRows_line (depth + 1) body, ListRow.line]

theorem forestListRows_line (depth : Nat) : ∀ forest : List Element,
    (forestListRows depth forest).map ListRow.line = forestListLines depth forest
  | [] => by rw [forestListRows, forestListLines, List.map_nil]
  | element :: rest => by
    rw [forestListRows, forestListLines, List.map_append, element.listRows_line depth,
      forestListRows_line depth rest]

end

mutual

/-- An element has its row above the rows of what is inside it. -/
theorem listRows_preorder (depth : Nat) : ∀ element : Element,
    (element.listRows depth).filterMap ListRow.element? = element.preorder
  | .display _ _ _ children => by
    rw [listRows, preorder, ListRow.elements_element, forestListRows_preorder (depth + 1) children]
  | .conditional _ _ body none => by
    rw [listRows, preorder, ListRow.elements_element, forestListRows_preorder (depth + 1) body]
  | .conditional _ _ body (some otherwise) => by
    rw [listRows, preorder, List.filterMap_append, ListRow.elements_element,
      ListRow.elements_otherwise, forestListRows_preorder (depth + 1) body,
      forestListRows_preorder (depth + 1) otherwise, List.cons_append]
  | .iteration _ _ body => by
    rw [listRows, preorder, ListRow.elements_element, forestListRows_preorder (depth + 1) body]

theorem forestListRows_preorder (depth : Nat) : ∀ forest : List Element,
    (forestListRows depth forest).filterMap ListRow.element? = preorderAll forest
  | [] => by rw [forestListRows, preorderAll, List.filterMap_nil]
  | element :: rest => by
    rw [forestListRows, preorderAll, List.filterMap_append,
      element.listRows_preorder depth, forestListRows_preorder depth rest]

end

mutual

theorem listRows_else (depth : Nat) : ∀ element : Element,
    (element.listRows depth).countP ListRow.isElse = element.preorder.countP hasElse
  | .display _ _ _ children => by
    rw [listRows, preorder, List.countP_cons, List.countP_cons,
      forestListRows_else (depth + 1) children]
    rfl
  | .conditional _ _ body none => by
    rw [listRows, preorder, List.countP_cons, List.countP_cons,
      forestListRows_else (depth + 1) body]
    rfl
  | .conditional _ _ body (some otherwise) => by
    rw [listRows, preorder, List.countP_append, List.countP_cons, List.countP_cons,
      List.countP_cons, List.countP_append, forestListRows_else (depth + 1) body,
      forestListRows_else (depth + 1) otherwise]
    simp [ListRow.isElse, hasElse, Nat.add_assoc]
  | .iteration _ _ body => by
    rw [listRows, preorder, List.countP_cons, List.countP_cons,
      forestListRows_else (depth + 1) body]
    rfl

/-- There is one further row for each `else`. -/
theorem forestListRows_else (depth : Nat) : ∀ forest : List Element,
    (forestListRows depth forest).countP ListRow.isElse =
      (preorderAll forest).countP hasElse
  | [] => by rw [forestListRows, preorderAll, List.countP_nil, List.countP_nil]
  | element :: rest => by
    rw [forestListRows, preorderAll, List.countP_append, List.countP_append,
      element.listRows_else depth, forestListRows_else depth rest]

end

end Element

end AppDescription
