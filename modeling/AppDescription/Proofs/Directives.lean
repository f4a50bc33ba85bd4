import AppDescription.Proofs.Padding
import AppDescription.Vue.Component

namespace AppDescription

namespace Element

/-- The lists of elements inside an element, that of the main branch before that of `else`. -/
def branches : Element → List (List Element)
  | display _ _ _ children => [children]
  | conditional _ _ body none => [body]
  | conditional _ _ body (some otherwise) => [body, otherwise]
  | iteration _ _ body => [body]

theorem children_eq (element : Element) : element.children = element.branches.flatten := by
  cases element with
  | display => simp [children, branches]
  | conditional _ _ _ otherwise => cases otherwise <;> simp [children, branches]
  | iteration => simp [children, branches]

theorem walk_append (left right : List Element) :
    walk (left ++ right) = walk left ++ walk right := by
  induction left using walk.induct with
  | case1 => rw [walk, List.nil_append, List.nil_append]
  | case2 element pending ih =>
    rw [List.cons_append, walk, walk, ← List.append_assoc, ih, List.cons_append]

theorem walk_flatten (forests : List (List Element)) :
    walk forests.flatten = forests.flatMap walk := by
  induction forests with
  | nil => rw [List.flatten_nil, walk, List.flatMap_nil]
  | cons forest forests ih => rw [List.flatten_cons, walk_append, ih, List.flatMap_cons]

/-- The elements of a forest are its first one, those inside it, and those of the others. -/
theorem mem_walk_cons {element first : Element} {rest : List Element} :
    element ∈ walk (first :: rest) ↔ element = first ∨
      (∃ branch ∈ first.branches, element ∈ walk branch) ∨ element ∈ walk rest := by
  rw [walk, walk_append, children_eq, walk_flatten, List.mem_cons, List.mem_append,
    List.mem_flatMap]

theorem sizeAll_branch_lt {element : Element} {branch : List Element}
    (among : branch ∈ element.branches) : sizeAll branch < element.size := by
  rw [size_eq, children_eq]
  have inner : sizeAll branch ≤ sizeAll element.branches.flatten := by
    obtain ⟨before, after, whole⟩ := List.append_of_mem among
    rw [whole, List.flatten_append, List.flatten_cons, sizeAll_append, sizeAll_append]
    omega
  omega

end Element

/-- Joining keeps parts together. -/
theorem Text.join_part (separator : Text) {part whole : List Text} (inside : part <:+: whole)
    (nonempty : part ≠ []) : join separator part <:+: join separator whole := by
  obtain ⟨before, after, rfl⟩ := inside
  have upTo : join separator part <:+ join separator (before ++ part) := by
    rcases eq_or_ne before [] with rfl | some
    · exact List.suffix_rfl
    · rw [join_append separator some nonempty]
      exact List.suffix_append _ _
  rcases eq_or_ne after [] with rfl | some
  · rw [List.append_nil]
    exact upTo.isInfix
  · rw [join_append separator (by simp [nonempty]) some, List.append_assoc]
    exact upTo.isInfix.trans (List.prefix_append _ _).isInfix

theorem Text.part_join_of_mem (separator : Text) {piece : Text} {pieces : List Text}
    (among : piece ∈ pieces) : piece <:+: join separator pieces := by
  obtain ⟨before, after, rfl⟩ := List.append_of_mem among
  have alone : [piece] <:+: before ++ piece :: after := ⟨before, after, by simp⟩
  exact join_part separator alone (by simp)

namespace Vue

/-- What an element opens with on the page. -/
def openingOf : Element → Text
  | .display kind _ properties _ => displayOpening kind properties
  | .conditional _ condition _ _ => conditionOpening condition
  | .iteration item collection _ => iterationOpening item collection

theorem elementLines_eq_cons (level : Nat) (element : Element) :
    ∃ below, elementLines level element =
      levelLine level ("<" ++ openingOf element ++ ">") :: below := by
  cases element with
  | display => exact ⟨_, by rw [elementLines, blockLines]; rfl⟩
  | conditional _ _ _ otherwise =>
    cases otherwise with
    | none => exact ⟨_, by rw [elementLines, blockLines]; rfl⟩
    | some => exact ⟨_, by rw [elementLines, blockLines]; rfl⟩
  | iteration => exact ⟨_, by rw [elementLines, blockLines]; rfl⟩

theorem blockLines_part (level : Nat) (tag opening : Text) (inside : List Text) :
    inside <:+: blockLines level tag opening inside :=
  ⟨[levelLine level ("<" ++ opening ++ ">")], [levelLine level ("</" ++ tag ++ ">")], rfl⟩

/-- What is inside an element stands together among its lines. -/
theorem branch_part {element : Element} {branch : List Element}
    (among : branch ∈ element.branches) (nonempty : branch ≠ []) (level : Nat) :
    forestLines (level + 1) branch <:+: elementLines level element := by
  cases element with
  | display kind name properties children =>
    obtain rfl := List.mem_singleton.mp among
    rw [elementLines]
    exact (List.suffix_append _ _).isInfix.trans (blockLines_part _ _ _ _)
  | conditional word condition body otherwise =>
    cases otherwise with
    | none =>
      obtain rfl := List.mem_singleton.mp among
      rw [elementLines]
      exact blockLines_part _ _ _ _
    | some otherwise =>
      rw [elementLines]
      rcases List.mem_cons.mp among with rfl | later
      · exact (blockLines_part _ _ _ _).trans (List.prefix_append _ _).isInfix
      · obtain rfl := List.mem_singleton.mp later
        rw [if_neg (by simpa using nonempty)]
        exact (blockLines_part _ _ _ _).trans (List.suffix_append _ _).isInfix
  | iteration item collection body =>
    obtain rfl := List.mem_singleton.mp among
    rw [elementLines]
    exact blockLines_part _ _ _ _

theorem forest_nonempty {forest : List Element} {element : Element}
    (among : element ∈ Element.walk forest) : forest ≠ [] := by
  rintro rfl
  simp [Element.walk] at among

/-- Every element of a forest has its lines together on the page. -/
theorem elementLines_part {forest : List Element} {element : Element}
    (among : element ∈ Element.walk forest) (level : Nat) :
    ∃ deeper, elementLines deeper element <:+: forestLines level forest := by
  induction size : Element.sizeAll forest using Nat.strong_induction_on
    generalizing forest level with
  | _ size ih =>
    cases forest with
    | nil => exact absurd rfl (forest_nonempty among)
    | cons first rest =>
      rw [Element.sizeAll] at size
      rw [forestLines]
      rcases Element.mem_walk_cons.mp among with rfl | ⟨branch, inFirst, inside⟩ | later
      · exact ⟨level, (List.prefix_append _ _).isInfix⟩
      · have smaller := Element.sizeAll_branch_lt inFirst
        obtain ⟨deeper, part⟩ := ih (Element.sizeAll branch) (by omega) inside (level + 1) rfl
        have whole := branch_part inFirst (forest_nonempty inside) level
        exact ⟨deeper, part.trans (whole.trans (List.prefix_append _ _).isInfix)⟩
      · have positive : 0 < first.size := by
          rw [Element.size_eq]
          omega
        obtain ⟨deeper, part⟩ := ih (Element.sizeAll rest) (by omega) later level rfl
        exact ⟨deeper, part.trans (List.suffix_append _ _).isInfix⟩

/-- The expressions that decide whether an element shows or is active, each with the directive that
it turns into. -/
def directives : Element → List (Text × Text)
  | .conditional _ condition _ _ => [(condition, "v-if=\"" ++ toCondition condition ++ "\"")]
  | .display _ _ properties _ =>
    (properties.filter fun entry => entry.1 = "active".toList).map fun entry =>
      (entry.2, ":class=\"" ++ Text.braced (" active: " ++ toCondition entry.2 ++ " ") ++ "\"")
  | .iteration _ _ _ => []

theorem activeDirective_eq (value : Text) :
    ":class=\"" ++ Text.braced (" active: " ++ toCondition value ++ " ") ++ "\"" =
      Attribute.text ⟨":class", Text.braced (" active: " ++ toCondition value ++ " ")⟩ := by
  have start : ":class=\"".toList = ":class".toList ++ "=\"".toList := by decide
  rw [Attribute.text, start]

theorem conditionOpening_eq (condition : Text) :
    conditionOpening condition = "div ".toList ++ ("v-if=\"" ++ toCondition condition ++ "\"") := by
  have start : "div v-if=\"".toList = "div ".toList ++ "v-if=\"".toList := by decide
  unfold conditionOpening
  rw [start, List.append_assoc, List.append_assoc, List.append_assoc]

/-- An element opens with its directives. -/
theorem directive_part {element : Element} {entry : Text × Text}
    (states : entry ∈ directives element) : entry.2 <:+: openingOf element := by
  cases element with
  | display kind name properties children =>
    obtain ⟨⟨key, value⟩, among, rfl⟩ := List.mem_map.mp states
    obtain ⟨member, active⟩ := List.mem_filter.mp among
    obtain rfl : key = "active".toList := by simpa using active
    have stated : ⟨":class", Text.braced (" active: " ++ toCondition value ++ " ")⟩ ∈
        attributes properties :=
      List.mem_filterMap.mpr ⟨_, member, if_pos rfl⟩
    have written := List.mem_map_of_mem (f := Attribute.text)
      (List.mem_cons_of_mem ⟨"class", kebabCase kind⟩ stated)
    have joined := Text.part_join_of_mem [' '] written
    rw [activeDirective_eq, openingOf, displayOpening]
    exact joined.trans (List.suffix_append _ _).isInfix
  | conditional word condition body otherwise =>
    rw [directives, List.mem_singleton] at states
    rw [states, openingOf, conditionOpening_eq]
    exact (List.suffix_append _ _).isInfix
  | iteration => cases states

/-- Every directive of a forest is on the page. -/
theorem directive_emitted {forest : List Element} {element : Element} {entry : Text × Text}
    (among : element ∈ Element.walk forest) (states : entry ∈ directives element) (level : Nat) :
    entry.2 <:+: Text.join ['\n'] (forestLines level forest) := by
  obtain ⟨deeper, together⟩ := elementLines_part among level
  obtain ⟨below, lines⟩ := elementLines_eq_cons deeper element
  have opens : levelLine deeper ("<" ++ openingOf element ++ ">") ∈ forestLines level forest :=
    together.subset (lines ▸ List.mem_cons_self)
  have within : openingOf element <:+: levelLine deeper ("<" ++ openingOf element ++ ">") :=
    ⟨List.replicate (2 * deeper) ' ' ++ "<", ">", by simp only [levelLine, List.append_assoc]⟩
  exact (directive_part states).trans (within.trans (Text.part_join_of_mem ['\n'] opens))

/-- A loop on the page: its opening tag, what is repeated, and its closing tag. -/
def loopText (level : Nat) (item collection : Text) (body : List Element) : Text :=
  "<" ++ iterationOpening item collection ++ ">" ++ ['\n'] ++
    Text.join ['\n'] (forestLines (level + 1) body) ++ ['\n'] ++ levelLine level "</div>"

theorem forestLines_nonempty {forest : List Element} (some : forest ≠ []) (level : Nat) :
    forestLines level forest ≠ [] := by
  cases forest with
  | nil => exact absurd rfl some
  | cons element rest =>
    obtain ⟨below, lines⟩ := elementLines_eq_cons level element
    rw [forestLines, lines]
    simp

theorem blockLines_join (level : Nat) (tag opening : Text) {inside : List Text}
    (some : inside ≠ []) : Text.join ['\n'] (blockLines level tag opening inside) =
      levelLine level ("<" ++ opening ++ ">") ++ ['\n'] ++
        (Text.join ['\n'] inside ++ ['\n'] ++ levelLine level ("</" ++ tag ++ ">")) := by
  have lines : blockLines level tag opening inside = [levelLine level ("<" ++ opening ++ ">")] ++
      (inside ++ [levelLine level ("</" ++ tag ++ ">")]) := rfl
  rw [lines, Text.join_append _ (by simp) (by simp), Text.join_append _ some (by simp)]
  rfl

theorem loopText_part (level : Nat) (item collection : Text) {body : List Element}
    (some : body ≠ []) : loopText level item collection body <:+:
      Text.join ['\n'] (elementLines level (.iteration item collection body)) := by
  have tag : "</".toList ++ "div".toList ++ ">".toList = "</div>".toList := by decide
  rw [elementLines, blockLines_join _ _ _ (forestLines_nonempty some (level + 1)), tag]
  refine ⟨List.replicate (2 * level) ' ', [], ?_⟩
  simp only [loopText, levelLine, List.append_assoc, List.append_nil]

/-- Every loop of a forest is on the page, along with what it repeats. -/
theorem loop_emitted {forest body : List Element} {item collection : Text}
    (among : .iteration item collection body ∈ Element.walk forest) (some : body ≠ [])
    (level : Nat) : ∃ deeper,
      loopText deeper item collection body <:+: Text.join ['\n'] (forestLines level forest) := by
  obtain ⟨deeper, together⟩ := elementLines_part among level
  obtain ⟨below, lines⟩ := elementLines_eq_cons deeper (.iteration item collection body)
  have whole := Text.join_part ['\n'] together (by simp [lines])
  exact ⟨deeper, (loopText_part deeper item collection some).trans whole⟩

/-- The elements of an interface are on its page. -/
theorem forest_emitted (computed : List ComputedValue) {interface : Interface}
    (some : interface.elements ≠ []) :
    Text.join ['\n'] (forestLines 2 interface.elements) <:+:
      (componentArtifact computed interface).content := by
  refine Text.join_part ['\n'] ?_ (forestLines_nonempty some 2)
  exact ⟨templateOpening interface,
    templateClosing ++ (scriptLines computed ++ styleLines interface), by
      simp only [templateLines, List.append_assoc]⟩

end Vue

end AppDescription
