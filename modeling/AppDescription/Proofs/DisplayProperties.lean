import AppDescription.Proofs.BodyScan

namespace AppDescription

namespace Node

mutual

/-- There is no fault in any element of a node without one. -/
theorem faultless_of_mem_preorder : ∀ node : Node, Finding.firstFault? node.findings = none →
    ∀ other ∈ node.preorder, Finding.firstFault? other.findings = none
  | display line kind name content body, faultless => by
    rw [preorder]
    exact List.forall_mem_cons.mpr ⟨faultless, faultless_of_mem_preorderAll body faultless⟩
  | conditional line word condition body, faultless => by
    rw [preorder]
    exact List.forall_mem_cons.mpr ⟨faultless, faultless_of_mem_preorderAll body faultless⟩
  | choice line word condition body elseLine otherwise, faultless => by
    have both := faultless
    rw [findings, Finding.firstFault?_append, Option.or_eq_none_iff] at both
    rw [preorder]
    exact List.forall_mem_cons.mpr ⟨faultless, List.forall_mem_append.mpr
      ⟨faultless_of_mem_preorderAll body both.1, faultless_of_mem_preorderAll otherwise both.2⟩⟩
  | iteration line item collection body, faultless => by
    rw [preorder]
    exact List.forall_mem_cons.mpr ⟨faultless, faultless_of_mem_preorderAll body faultless⟩
  | property .. , _ | looseElse _, _ | malformed .., _ => by simp [preorder]

theorem faultless_of_mem_preorderAll : ∀ nodes : List Node, fault? nodes = none →
    ∀ other ∈ preorderAll nodes, Finding.firstFault? other.findings = none
  | [], _ => by simp [preorderAll]
  | node :: rest, faultless => by
    rw [fault?_cons, fault?_singleton, Option.or_eq_none_iff] at faultless
    rw [preorderAll]
    exact List.forall_mem_append.mpr ⟨faultless_of_mem_preorder node faultless.1,
      faultless_of_mem_preorderAll rest faultless.2⟩

end

end Node

/-- No element of a faultless outline holds a fault. -/
theorem Outline.faultless_of_mem {lines : List Line} {node : Node}
    (faultless : (read lines).fault? = none) (among : node ∈ (read lines).elementNodes) :
    Finding.firstFault? node.findings = none := by
  obtain ⟨declaration, member, inside⟩ := List.mem_flatMap.mp among
  have flipped := (declarations_readsAs faultless).flip
  obtain ⟨place, _, reads⟩ := exists_of_mem_forall₂ flipped member
  cases declaration with
  | interface block => exact Node.faultless_of_mem_preorderAll block.body reads.faultless node inside
  | _ => cases inside

/-- Only `show` gives the header of a display. -/
theorem ElementHeader.read?_display {keyword text kind content : Text} {name : Option Text}
    (found : read? keyword text = some (.ok (.display kind name content))) :
    keyword = "show".toList ∧ Header.display? text = some (kind, name, content) := by
  unfold read? read?.conditional? at found
  split_ifs at found with isShow
  · split at found
    · rename_i shape
      cases found
      exact ⟨isShow, shape⟩
    · cases found
  all_goals split at found <;> cases found

/-- What an element puts on display: its kind with its name, and its properties. -/
def Element.display? : Element → Option ((Text × Text) × Properties)
  | display kind name properties _ => some ((kind, name), properties)
  | _ => none

theorem Element.display?_eq_some {element : Element} {kind name : Text} {properties : Properties}
    (shows : element.display? = some ((kind, name), properties)) :
    ∃ children, element = display kind name properties children := by
  cases element with
  | display _ _ _ children =>
    cases shows
    exact ⟨children, rfl⟩
  | _ => cases shows

/-- How properties come about from the name and the text in a display header and from the lines of its
body: the properties of the body are made first and those of the header put ahead of them, which is
to make all assignments in turn. Each key stands where it was assigned first and has the value that it
was assigned last. Only the lines that the body is read by set anything, and each other line belongs to
one of these. -/
structure Properties.Gathered (properties : Properties) (name : Option Text) (content : Text)
    (lines : List Line) : Prop where
  merged : properties = merge name content (ofAssignments (Node.settings lines))
  keys : properties.map Prod.fst =
    ((Node.headerAssignments name content ++ Node.settings lines).map Prod.fst).eraseDups
  values : ∀ key value, (key, value) ∈ properties ↔
    lastValue? key (Node.headerAssignments name content ++ Node.settings lines) = some value
  whole : (ownPlaces lines).flatMap (fun place => place.1 :: place.1.taken place.2) = lines

/-- A display header over a body without a fault gives an element with just these properties. -/
theorem Node.display_gathered {line : Line} {below : List Line} {kind content : Text}
    {name : Option Text} (faultless : fault? (read (members line.inner below)) = none) :
    ∃ properties children, (ofHeader (.display kind name content) line below).1.element? =
      some (.display kind (name.getD kind) properties children) ∧
        properties.Gathered name content (members line.inner below) := by
  refine ⟨_, _, rfl, ?_⟩
  rw [assignments_read faultless]
  exact ⟨(Properties.merge_ofAssignments _ _ _).symm, Properties.keys_ofAssignments _,
    fun _ _ => Properties.mem_ofAssignments _, ownPlaces_flatten _⟩

/-- An element stands at a place in the source: the line there opens it over the lines below. What it
puts on display is told by that line and by the body below it. -/
structure Element.StandsAt (lines : List Line) (place : Line × List Line) (element : Element) :
    Prop where
  inside : place.1 :: place.2 <:+ lines
  opened : ∃ header, BodyRole.ofLine place.1 = .opens header ∧
    (Node.ofHeader header place.1 place.2).1.element? = some element
  shown : ∀ kind name properties children, element = .display kind name properties children →
    ∃ title content, BodyRole.ofLine place.1 = .opens (.display kind title content) ∧
      Header.display? place.1.text = some (kind, title, content) ∧ name = title.getD kind ∧
      properties.Gathered title content (members place.1.inner place.2)

/-- Every element of a faultless outline stands at the place of its header. -/
theorem Outline.exists_standsAt {lines : List Line} {node : Node}
    (faultless : (read lines).fault? = none) (among : node ∈ (read lines).elementNodes) :
    ∃ (place : Line × List Line) (element : Element), node.headerLine? = some place.1 ∧
      node.element? = some element ∧ element.StandsAt lines place := by
  have clean := faultless_of_mem faultless among
  obtain ⟨above, line, below, header, rfl, role, rfl⟩ := exists_place among
  have inside : line :: below <:+ above ++ line :: below := List.suffix_append _ _
  obtain ⟨element, stands, titles⟩ := Node.ofHeader_titles header line below
  refine ⟨(line, below), element, Node.headerLine?_ofHeader header line below, stands, inside,
    ⟨header, role, stands⟩, ?_⟩
  rintro kind name properties children rfl
  cases header with
  | display kind' title content =>
    obtain ⟨properties', children', made, gathered⟩ := Node.display_gathered clean
    cases stands.symm.trans made
    obtain ⟨keyword, _, found⟩ := Option.bind_eq_some_iff.mp (BodyRole.ofLine_opens role)
    exact ⟨title, content, role, (ElementHeader.read?_display found).2, rfl, gathered⟩
  | conditional | iteration => exact titles.elim

namespace Document

/-- The elements of a document stand in their order at places of the source, each on a line of its own,
and the properties of every element on display are gathered from its own header and its own body. -/
theorem properties_gathered {source : Text} {document : Document}
    (parsed : parse source = .ok document) :
    ∃ places : List (Line × List Line),
      (places.map Prod.fst).Sublist ((Line.ofSource source).filter Line.startsElement) ∧
      List.Forall₂ (fun place element => element.StandsAt (Line.ofSource source) place) places
        (document.interfaces.flatMap Interface.walk) := by
  obtain ⟨faultless, rfl⟩ := parse_eq_ok.mp parsed
  obtain ⟨places, headers, paired⟩ := Node.exists_places Prod.fst
    (fun _ among => Outline.exists_standsAt faultless among) (Outline.elementNodes_walk _)
  refine ⟨places, ?_, paired⟩
  rw [headers]
  exact Outline.headerLines_sublist _

/-- A body that gives its own `id` and `text`, repeats a key, sets one under a plain line, and holds an
element, two skipped sections, an `else` and a literal with lines that look like settings. -/
theorem properties_gathered_mixed :
    let source : Text := "interface Home:\n  show card main: Hello\n    a: 1\n      deep: d\n" ++
      "    id: own\n    show item:\n      a: child\n    on tap:\n      b: no\n    pagination:\n" ++
      "      c: no\n    else:\n      e: no\n    note: |\n      f: no\n    text: Bye\n    a: 2\n"
    ∃ document, parse source = .ok document ∧
      ∃ (below : List Line) (properties : Properties) (children : List Element),
        (document.interfaces.flatMap Interface.walk).head? =
          some (.display "card" "main" properties children) ∧
        (Element.display "card" "main" properties children).StandsAt (Line.ofSource source)
          (⟨2, "  show card main: Hello"⟩, below) ∧
        properties = [("id".toList, "own".toList), ("text".toList, "Bye".toList),
          ("a".toList, "2".toList), ("deep".toList, "d".toList), ("note".toList, "f: no".toList)] := by
  intro source
  have faultless : (Outline.ofSource source).fault? = none := by decide +kernel
  have parsed := parse_eq_ok.mpr ⟨faultless, rfl⟩
  have shown : (((ofDeclarations (Outline.ofSource source).declarations).interfaces.flatMap
      Interface.walk).map Element.display?) = [some (("card".toList, "main".toList),
        [("id".toList, "own".toList), ("text".toList, "Bye".toList), ("a".toList, "2".toList),
          ("deep".toList, "d".toList), ("note".toList, "f: no".toList)]),
        some (("item".toList, "item".toList), [("a".toList, "child".toList)])] := by
    decide +kernel
  have headers : (Line.ofSource source).filter Line.startsElement =
      [⟨2, "  show card main: Hello"⟩, ⟨6, "    show item:"⟩] := by decide +kernel
  obtain ⟨places, lines, paired⟩ := properties_gathered parsed
  have count := paired.length_eq.trans (List.length_map Element.display?).symm
  rw [shown] at count
  have all := lines.eq_of_length (by rw [headers, List.length_map, count]; rfl)
  obtain ⟨element, others, walk, shows, _⟩ := List.map_eq_cons_iff.mp shown
  obtain ⟨children, rfl⟩ := Element.display?_eq_some shows
  rw [walk] at paired
  obtain ⟨⟨line, below⟩, rest, stands, _, rfl⟩ := List.forall₂_cons_right_iff.mp paired
  rw [headers] at all
  obtain ⟨rfl, _⟩ := List.cons.inj all
  exact ⟨_, parsed, below, _, children, by rw [walk]; rfl, stands, rfl⟩

end Document

end AppDescription
