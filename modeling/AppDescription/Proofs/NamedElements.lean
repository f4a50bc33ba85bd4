import AppDescription.Proofs.DeclaredNames
import AppDescription.Proofs.OutlineElements
import AppDescription.Proofs.PageEntries

namespace AppDescription

namespace Header

variable {text content kind item collection : Text} {name : Option Text}

theorem display?_isName (found : display? text = some (kind, name, content)) : kind.IsName := by
  simp only [display?, bind, Option.bind_eq_some_iff] at found
  obtain ⟨_, _, _, _, ⟨word, rest⟩, named, rest⟩ := found
  obtain ⟨nonempty, all, _⟩ := Text.word?_eq_some named
  have same : word = kind := by
    split at rest <;> obtain ⟨_, _, given⟩ := Option.bind_eq_some_iff.mp rest <;> cases given <;> rfl
  exact same ▸ ⟨nonempty, all⟩

theorem iteration?_isName (found : iteration? text = some (item, collection)) : item.IsName := by
  simp only [iteration?, bind, Option.bind_eq_some_iff] at found
  obtain ⟨_, _, _, _, ⟨word, rest⟩, named, _, _, _, _, _, _, rest⟩ := found
  obtain ⟨nonempty, all, _⟩ := Text.word?_eq_some named
  have same : word = item := by
    split_ifs at rest <;> cases rest <;> rfl
  exact same ▸ ⟨nonempty, all⟩

end Header

/-- The names that a header brings in are names. -/
def ElementHeader.IsNamed : ElementHeader → Prop
  | .display kind _ _ => kind.IsName
  | .iteration item _ => item.IsName
  | .conditional .. => True

/-- The names that an element stands under on a page are names. -/
def Element.IsNamed : Element → Prop
  | .display kind _ _ _ => kind.IsName
  | .iteration item _ _ => item.IsName
  | .conditional .. => True

/-- What holds of all elements in a tree holds of those in each of its branches. -/
theorem Element.forall_walk_branch {P : Element → Prop} {element : Element} {branch : List Element}
    (all : ∀ other ∈ walk [element], P other) (among : branch ∈ element.branches) :
    ∀ other ∈ walk branch, P other :=
  fun other inside => all other (mem_walk_cons.mpr (.inr (.inl ⟨branch, among, inside⟩)))

theorem ElementHeader.read?_isNamed {keyword text : Text} {header : ElementHeader}
    (found : read? keyword text = some (.ok header)) : header.IsNamed := by
  unfold read? at found
  split_ifs at found
  · cases shape : Header.display? text with
    | none =>
      rw [shape] at found
      cases found
    | some parts =>
      rw [shape] at found
      cases found
      exact Header.display?_isName shape
  · cases shape : Header.iteration? text with
    | none =>
      rw [shape] at found
      cases found
    | some parts =>
      rw [shape] at found
      cases found
      exact Header.iteration?_isName shape
  all_goals
    simp only [read?.conditional?] at found
    split at found <;> cases found
    trivial

theorem Line.Heads.isNamed {line : Line} {element : Element} (heads : line.Heads element) :
    element.IsNamed := by
  obtain ⟨header, role, titles⟩ := heads
  obtain ⟨keyword, _, read⟩ := Option.bind_eq_some_iff.mp (BodyRole.ofLine_opens role)
  have named := ElementHeader.read?_isNamed read
  cases header <;> cases element <;> try exact titles.elim
  · exact titles.1 ▸ named
  · trivial
  · exact titles.1 ▸ named

/-- Every element of a document has its header on some line of the source. -/
theorem Document.exists_heads {source : Text} {document : Document}
    (parsed : parse source = .ok document) {interface : Interface}
    (member : interface ∈ document.interfaces) {element : Element}
    (among : element ∈ interface.walk) : ∃ line ∈ Line.ofSource source, line.Heads element := by
  obtain ⟨_, rfl⟩ := parse_eq_ok.mp parsed
  have listed : some element ∈ (Outline.ofSource source).elementNodes.map Node.element? := by
    rw [Outline.ofSource, Outline.elementNodes_walk]
    exact List.mem_map_of_mem (List.mem_flatMap.mpr ⟨interface, member, among⟩)
  obtain ⟨node, inNodes, stands⟩ := List.mem_map.mp listed
  obtain ⟨above, line, below, header, split, role, rfl⟩ := Outline.exists_place inNodes
  obtain ⟨other, stands', titles⟩ := Node.ofHeader_titles header line below
  cases stands.symm.trans stands'
  exact ⟨line, split ▸ List.mem_append_right above List.mem_cons_self, header, role, titles⟩

theorem Document.elements_isNamed {source : Text} {document : Document}
    (parsed : parse source = .ok document) {interface : Interface}
    (member : interface ∈ document.interfaces) : ∀ element ∈ interface.walk, element.IsNamed := by
  intro element among
  obtain ⟨line, _, heads⟩ := exists_heads parsed member among
  exact heads.isNamed

namespace Vue

/-- Every name that stands in an opening tag is a name. -/
def Opening.IsNamed : Opening → Prop
  | .root name => name.IsName
  | .display kind _ => kind.IsName
  | .iteration item _ => item.IsName
  | .template | .condition _ | .otherwise | .script | .style => True

def Entry.IsNamed : Entry → Prop
  | .opening _ opened => opened.IsNamed
  | .content .. | .closing .. => True

theorem blockEntries_isNamed {level : Nat} {opening : Opening} {inside : List Entry}
    (named : opening.IsNamed) (inner : ∀ entry ∈ inside, entry.IsNamed) :
    ∀ entry ∈ blockEntries level opening inside, entry.IsNamed := by
  have closing : (Entry.closing level opening.tag).IsNamed := trivial
  have opens : (Entry.opening level opening).IsNamed := named
  simp only [blockEntries, List.forall_mem_append, List.forall_mem_cons]
  exact ⟨⟨opens, inner⟩, closing, by simp⟩

theorem content_isNamed (lines : List Text) :
    ∀ entry ∈ lines.map (Entry.content 0), entry.IsNamed := by
  intro entry member
  obtain ⟨line, _, rfl⟩ := List.mem_map.mp member
  trivial

theorem contentEntries_isNamed (level : Nat) (properties : Properties) :
    ∀ entry ∈ contentEntries level properties, entry.IsNamed := by
  unfold contentEntries
  split
  · simp
  · simp
  · exact List.forall_mem_singleton.mpr trivial

mutual

theorem elementEntries_isNamed (level : Nat) : ∀ element : Element,
    (∀ other ∈ Element.walk [element], other.IsNamed) →
      ∀ entry ∈ elementEntries level element, entry.IsNamed
  | .display kind name properties children, named => by
    have own : kind.IsName := named _ (Element.mem_walk_cons.mpr (.inl rfl))
    have inner := forestEntries_isNamed (level + 1) children
      (Element.forall_walk_branch named List.mem_cons_self)
    rw [elementEntries]
    exact blockEntries_isNamed own
      (List.forall_mem_append.mpr ⟨contentEntries_isNamed _ _, inner⟩)
  | .conditional _ expression body none, named => by
    have inner := forestEntries_isNamed (level + 1) body
      (Element.forall_walk_branch named List.mem_cons_self)
    rw [elementEntries]
    exact blockEntries_isNamed trivial inner
  | .conditional _ expression body (some otherwise), named => by
    have inner := forestEntries_isNamed (level + 1) body
      (Element.forall_walk_branch named List.mem_cons_self)
    have other := forestEntries_isNamed (level + 1) otherwise
      (Element.forall_walk_branch named (List.mem_cons_of_mem _ List.mem_cons_self))
    rw [elementEntries]
    refine List.forall_mem_append.mpr ⟨blockEntries_isNamed trivial inner, ?_⟩
    split
    · simp
    · exact blockEntries_isNamed trivial other
  | .iteration item collection body, named => by
    have own : item.IsName := named _ (Element.mem_walk_cons.mpr (.inl rfl))
    have inner := forestEntries_isNamed (level + 1) body
      (Element.forall_walk_branch named List.mem_cons_self)
    rw [elementEntries]
    exact blockEntries_isNamed own inner

theorem forestEntries_isNamed (level : Nat) : ∀ forest : List Element,
    (∀ other ∈ Element.walk forest, other.IsNamed) →
      ∀ entry ∈ forestEntries level forest, entry.IsNamed
  | [], _ => by simp [forestEntries]
  | element :: rest, named => by
    rw [← List.singleton_append, Element.walk_append, List.forall_mem_append] at named
    rw [forestEntries]
    exact List.forall_mem_append.mpr ⟨elementEntries_isNamed level element named.1,
      forestEntries_isNamed level rest named.2⟩

end

/-- Where interfaces and elements have names, so has all that opens on a page. -/
theorem componentEntries_isNamed (computed : List ComputedValue) {interface : Interface}
    (name : interface.name.IsName) (elements : ∀ element ∈ interface.walk, element.IsNamed) :
    ∀ entry ∈ componentEntries computed interface, entry.IsNamed := by
  have root : Opening.IsNamed (.root interface.name) := name
  have inner : ∀ entry ∈ blockEntries 1 (.root interface.name)
      (forestEntries 2 interface.elements), entry.IsNamed :=
    blockEntries_isNamed root (forestEntries_isNamed 2 _ elements)
  simp only [componentEntries, templateEntries, scriptEntries, styleEntries,
    List.forall_mem_append]
  refine ⟨⟨⟨?_, content_isNamed [[]]⟩, ?_, content_isNamed [[]]⟩, ?_⟩
  · exact blockEntries_isNamed trivial inner
  · exact blockEntries_isNamed trivial (content_isNamed _)
  · exact blockEntries_isNamed trivial
      (content_isNamed ["." ++ kebabCase interface.name ++ [' ', '{'], ['}']])

end Vue

end AppDescription
