import AppDescription.Proofs.PageEntries
import AppDescription.Proofs.Preorder

namespace AppDescription

namespace Element

/-- What is inside an element, apart from an `else`. -/
def inside : Element → List Element
  | display _ _ _ children => children
  | conditional _ _ body _ => body
  | iteration _ _ body => body

/-- What an element shows in place of what is inside it. -/
def fallback : Element → List Element
  | conditional _ _ _ (some otherwise) => otherwise
  | conditional _ _ _ none | display .. | iteration .. => []

def hasText : Element → Bool
  | display _ _ properties _ => (Vue.content? properties).any fun text => !text.isEmpty
  | conditional .. | iteration .. => false

def hasFallback (element : Element) : Bool :=
  !element.fallback.isEmpty

mutual

/-- What carries over from the two parts of an element to the element is true of all elements. -/
theorem byParts {motive : Element → Prop}
    (step : ∀ element : Element, (∀ child ∈ element.inside, motive child) →
      (∀ child ∈ element.fallback, motive child) → motive element) :
    ∀ element : Element, motive element
  | .display _ _ _ children => step _ (byPartsAll step children) (List.forall_mem_nil _)
  | .conditional _ _ body none => step _ (byPartsAll step body) (List.forall_mem_nil _)
  | .conditional _ _ body (some otherwise) =>
    step _ (byPartsAll step body) (byPartsAll step otherwise)
  | .iteration _ _ body => step _ (byPartsAll step body) (List.forall_mem_nil _)

theorem byPartsAll {motive : Element → Prop}
    (step : ∀ element : Element, (∀ child ∈ element.inside, motive child) →
      (∀ child ∈ element.fallback, motive child) → motive element) :
    ∀ forest : List Element, ∀ element ∈ forest, motive element
  | [] => List.forall_mem_nil _
  | element :: rest => List.forall_mem_cons.mpr ⟨byParts step element, byPartsAll step rest⟩

end

theorem preorder_eq (element : Element) :
    element.preorder = element :: (preorderAll element.inside ++ preorderAll element.fallback) := by
  cases element with
  | display => simp [preorder, inside, fallback, preorderAll]
  | conditional _ _ _ otherwise =>
    cases otherwise <;> simp [preorder, inside, fallback, preorderAll]
  | iteration => simp [preorder, inside, fallback, preorderAll]

theorem mem_preorder (element : Element) : element ∈ element.preorder := by
  rw [preorder_eq]
  exact List.mem_cons_self

theorem preorder_subset_preorderAll {element : Element} {forest : List Element}
    (among : element ∈ forest) : element.preorder ⊆ preorderAll forest := by
  induction forest with
  | nil => exact absurd among List.not_mem_nil
  | cons first rest ih =>
    rw [preorderAll]
    rcases List.mem_cons.mp among with rfl | among
    · exact List.subset_append_left _ _
    · exact List.Subset.trans (ih among) (List.subset_append_right _ _)

theorem preorder_subset (element : Element) {child : Element}
    (part : child ∈ element.inside ∨ child ∈ element.fallback) :
    child.preorder ⊆ element.preorder := by
  rw [preorder_eq element]
  refine List.Subset.trans ?_ (List.subset_cons_self _ _)
  rcases part with among | among
  · exact List.Subset.trans (preorder_subset_preorderAll among) (List.subset_append_left _ _)
  · exact List.Subset.trans (preorder_subset_preorderAll among) (List.subset_append_right _ _)

end Element

namespace Vue

theorem levelLine_succ (level : Nat) (line : Text) :
    levelLine (level + 1) line = "  ".toList ++ levelLine level line := by
  have spaces : "  ".toList = List.replicate 2 ' ' := by decide
  rw [levelLine, levelLine, spaces, ← List.append_assoc, List.replicate_append_replicate,
    Nat.mul_succ, Nat.add_comm]

theorem blockLines_succ (level : Nat) (tag opening : Text) (inside : List Text) :
    blockLines (level + 1) tag opening (inside.map ("  ".toList ++ ·)) =
      (blockLines level tag opening inside).map ("  ".toList ++ ·) := by
  simp only [blockLines, levelLine_succ, List.map_append, List.map_cons, List.map_nil,
    List.cons_append]

theorem contentLines_succ (level : Nat) (properties : Properties) :
    contentLines (level + 1) properties =
      (contentLines level properties).map ("  ".toList ++ ·) := by
  unfold contentLines
  split
  · rfl
  · rfl
  · rw [levelLine_succ, List.map_singleton]

mutual

theorem elementLines_succ (level : Nat) : ∀ element : Element,
    elementLines (level + 1) element = (elementLines level element).map ("  ".toList ++ ·)
  | .display _ _ properties children => by
    rw [elementLines, elementLines, contentLines_succ, forestLines_succ (level + 1) children,
      ← List.map_append, blockLines_succ]
  | .conditional _ _ body none => by
    rw [elementLines, elementLines, forestLines_succ (level + 1) body, blockLines_succ]
  | .conditional _ _ body (some otherwise) => by
    rw [elementLines, elementLines, forestLines_succ (level + 1) body, blockLines_succ,
      List.map_append]
    congr 1
    split
    · rfl
    · rw [forestLines_succ (level + 1) otherwise, blockLines_succ]
  | .iteration _ _ body => by
    rw [elementLines, elementLines, forestLines_succ (level + 1) body, blockLines_succ]

/-- One level deeper the lines are the same, two columns further in. -/
theorem forestLines_succ (level : Nat) : ∀ forest : List Element,
    forestLines (level + 1) forest = (forestLines level forest).map ("  ".toList ++ ·)
  | [] => by rw [forestLines, forestLines, List.map_nil]
  | element :: rest => by
    rw [forestLines, forestLines, List.map_append, elementLines_succ level element,
      forestLines_succ level rest]

end

/-- The text that an element shows before what is inside it. -/
def textEntries (level : Nat) : Element → List Entry
  | .display _ _ properties _ => contentEntries level properties
  | .conditional .. | .iteration .. => []

theorem forestEntries_eq_flatMap (level : Nat) (forest : List Element) :
    forestEntries level forest = forest.flatMap (elementEntries level) := by
  induction forest with
  | nil => rw [forestEntries, List.flatMap_nil]
  | cons element rest ih => rw [forestEntries, ih, List.flatMap_cons]

section parts

variable {holds : List Entry → Prop}

theorem textEntries_inherits {level : Nat} (none : holds [])
    (content : ∀ text, holds [.content level text]) (element : Element) :
    holds (textEntries level element) := by
  cases element with
  | display _ _ properties =>
    rw [textEntries, contentEntries]
    split
    · exact none
    · exact none
    · exact content _
  | conditional | iteration => exact none

theorem forestEntries_inherits {level : Nat} (none : holds [])
    (both : ∀ {first second}, holds first → holds second → holds (first ++ second))
    {forest : List Element} (each : ∀ element ∈ forest, holds (elementEntries level element)) :
    holds (forestEntries level forest) := by
  induction forest with
  | nil =>
    rw [forestEntries]
    exact none
  | cons element rest ih =>
    obtain ⟨first, later⟩ := List.forall_mem_cons.mp each
    rw [forestEntries]
    exact both first (ih later)

end parts

/-- An element is one block, with its text and what is inside it, and a second one with what it falls
back on, if there is anything. -/
theorem elementEntries_eq (level : Nat) (element : Element) :
    elementEntries level element =
      blockEntries level (.ofElement element)
        (textEntries (level + 1) element ++ forestEntries (level + 1) element.inside) ++
      if element.fallback.isEmpty then []
      else blockEntries level .otherwise (forestEntries (level + 1) element.fallback) := by
  cases element with
  | display => rw [elementEntries]; exact (List.append_nil _).symm
  | conditional _ _ _ otherwise =>
    cases otherwise with
    | none => rw [elementEntries]; exact (List.append_nil _).symm
    | some => rw [elementEntries]; rfl
  | iteration => rw [elementEntries]; exact (List.append_nil _).symm

theorem Opening.ofElement_ne (element : Element) : Opening.ofElement element ≠ .otherwise := by
  cases element <;> exact nofun

/-- Every tag stands between the columns of its level and its attributes, and it is closed by the
same text at the same level. -/
theorem Entry.opening_closing (level : Nat) (opened : Opening) : ∃ attributes : Text,
    (Entry.opening level opened).line =
      List.replicate (2 * level) ' ' ++ ("<" ++ opened.tag ++ attributes ++ ">") ∧
    (Entry.closing level opened.tag).line =
      List.replicate (2 * level) ' ' ++ ("</" ++ opened.tag ++ ">") := by
  refine ⟨(opened.marks.map Mark.text).flatMap fun mark => ' ' :: mark, ?_, rfl⟩
  rw [line, levelLine, tagText, Text.join_cons]
  simp only [List.append_assoc, List.singleton_append]

/-- The tags that are open after some entries, the innermost first. There is no answer when a line
does not stand at the level of the tags around it, or when a tag is closed that is not the innermost
one. -/
def unclosed? (base : Nat) : List Text → List Entry → Option (List Text)
  | stack, [] => some stack
  | stack, .opening level opened :: rest =>
    if level = base + stack.length then unclosed? base (opened.tag :: stack) rest else none
  | stack, .content level _ :: rest =>
    if level = base + stack.length then unclosed? base stack rest else none
  | [], .closing .. :: _ => none
  | tag :: stack, .closing level closed :: rest =>
    if level = base + stack.length ∧ closed = tag then unclosed? base stack rest else none

/-- Entries at a level that leave as open what was open before. -/
def Closed (level : Nat) (entries : List Entry) : Prop :=
  ∀ base stack rest, level = base + stack.length →
    unclosed? base stack (entries ++ rest) = unclosed? base stack rest

namespace Closed

variable {level : Nat} {entries others : List Entry}

theorem nil : Closed level [] := fun _ _ _ _ => rfl

theorem append (first : Closed level entries) (second : Closed level others) :
    Closed level (entries ++ others) := by
  intro base stack rest here
  rw [List.append_assoc, first base stack _ here, second base stack rest here]

theorem content (level : Nat) (text : Text) : Closed level [.content level text] := by
  intro base stack rest here
  rw [List.singleton_append, unclosed?, if_pos here]

theorem block (opened : Opening) (inner : Closed (level + 1) entries) :
    Closed level (blockEntries level opened entries) := by
  intro base stack rest here
  have deeper : level + 1 = base + (opened.tag :: stack).length := by
    rw [List.length_cons]
    omega
  rw [blockEntries, List.cons_append, List.cons_append, List.append_assoc, unclosed?, if_pos here,
    inner base (opened.tag :: stack) _ deeper, List.singleton_append, unclosed?,
    if_pos ⟨here, rfl⟩]

theorem forest {forest : List Element}
    (each : ∀ element ∈ forest, Closed level (elementEntries level element)) :
    Closed level (forestEntries level forest) :=
  forestEntries_inherits nil append each

end Closed

/-- An element closes the tags that it opens, each at the level it was opened at. -/
theorem elementEntries_closed (level : Nat) (element : Element) :
    Closed level (elementEntries level element) := by
  induction element using Element.byParts generalizing level with
  | step element inside fallback =>
    have text : Closed (level + 1) (textEntries (level + 1) element) :=
      textEntries_inherits .nil (.content (level + 1)) element
    have first := text.append (.forest fun child among => inside child among (level + 1))
    rw [elementEntries_eq]
    refine (first.block _).append ?_
    split
    · exact .nil
    · exact .block _ (.forest fun child among => fallback child among (level + 1))

end Vue

end AppDescription
