import AppDescription.Proofs.ElementBlocks

namespace AppDescription

namespace Vue

theorem cons_within_append {left right before after : List Entry} {entry : Entry}
    (whole : left ++ right = before ++ entry :: after) :
    (∃ middle, left = before ++ entry :: middle ∧ after = middle ++ right) ∨
      ∃ middle, before = left ++ middle ∧ right = middle ++ entry :: after := by
  rcases List.append_eq_append_iff.mp whole with ⟨middle, rfl, rest⟩ | ⟨middle, rfl, rest⟩
  · exact .inr ⟨middle, rfl, rest⟩
  · cases middle with
    | nil => exact .inr ⟨[], by simp, rest.symm⟩
    | cons first middle =>
      obtain ⟨rfl, rfl⟩ := List.cons.inj rest
      exact .inl ⟨middle, rfl, rfl⟩

/-- What stands around the opening of an `else` at a level: before it, as the last thing, the whole
block of the condition that it belongs to; after it what is inside it, and then its closing. -/
def BelongsTo (elements : List Element) (before : List Entry) (level : Nat) (after : List Entry) :
    Prop :=
  ∃ word condition body otherwise,
    .conditional word condition body (some otherwise) ∈ elements ∧
    (∃ earlier, before = earlier ++
      blockEntries level (.condition condition) (forestEntries (level + 1) body)) ∧
    ∃ later, after = forestEntries (level + 1) otherwise ++ .closing level "div" :: later

theorem BelongsTo.extend {elements : List Element} {before after : List Entry} {level : Nat}
    (belongs : BelongsTo elements before level after) (earlier later : List Entry) :
    BelongsTo elements (earlier ++ before) level (after ++ later) := by
  obtain ⟨word, condition, body, otherwise, member, ⟨start, rfl⟩, rest, rfl⟩ := belongs
  exact ⟨word, condition, body, otherwise, member, ⟨earlier ++ start, by simp⟩, rest ++ later,
    by simp⟩

/-- Entries in which every `else` comes right after the block of its condition. -/
def ElsesFollow (elements : List Element) (entries : List Entry) : Prop :=
  ∀ before level after, entries = before ++ .opening level .otherwise :: after →
    BelongsTo elements before level after

namespace ElsesFollow

variable {elements others : List Element} {entries left right : List Entry}

theorem nil : ElsesFollow elements [] := by
  intro before level after whole
  simp at whole

theorem mono (follow : ElsesFollow elements entries) (more : elements ⊆ others) :
    ElsesFollow others entries := by
  intro before level after whole
  obtain ⟨word, condition, body, otherwise, member, around⟩ := follow before level after whole
  exact ⟨word, condition, body, otherwise, more member, around⟩

theorem singleton {entry : Entry} (other : ∀ level, entry ≠ .opening level .otherwise) :
    ElsesFollow elements [entry] := by
  intro before level after whole
  have among : .opening level .otherwise ∈ [entry] := whole ▸ by simp
  exact absurd (List.mem_singleton.mp among).symm (other level)

theorem append (first : ElsesFollow elements left) (second : ElsesFollow elements right) :
    ElsesFollow elements (left ++ right) := by
  intro before level after whole
  rcases cons_within_append whole with ⟨middle, rfl, rfl⟩ | ⟨middle, rfl, rfl⟩
  · exact (first before level middle rfl).extend [] right
  · simpa using (second middle level after rfl).extend left []

theorem block {level : Nat} {opened : Opening} (other : opened ≠ .otherwise)
    (inner : ElsesFollow elements entries) :
    ElsesFollow elements (blockEntries level opened entries) := by
  have opening : ElsesFollow elements [.opening level opened] :=
    singleton fun _ same => other (Entry.opening.inj same).2
  have closing : ElsesFollow elements [.closing level opened.tag] :=
    singleton fun _ same => nomatch same
  exact (opening.append inner).append closing

/-- An `else` that belongs where it stands may stand between two parts in which all others do. -/
theorem between {level : Nat} (first : ElsesFollow elements left)
    (here : BelongsTo elements left level right) (second : ElsesFollow elements right) :
    ElsesFollow elements (left ++ .opening level .otherwise :: right) := by
  intro before deeper after whole
  rcases cons_within_append whole with ⟨middle, rfl, rfl⟩ | ⟨middle, rfl, rest⟩
  · exact (first before deeper middle rfl).extend [] _
  · cases middle with
    | nil =>
      obtain ⟨same, rfl⟩ := List.cons.inj rest
      obtain ⟨rfl, _⟩ := Entry.opening.inj same
      rwa [List.append_nil]
    | cons entry middle =>
      obtain ⟨rfl, rfl⟩ := List.cons.inj rest
      have around :=
        (second middle deeper after rfl).extend (left ++ [.opening level .otherwise]) []
      rwa [List.append_nil, List.append_assoc, List.singleton_append] at around

end ElsesFollow

/-- Every `else` comes right after the block of its condition. -/
theorem elementEntries_elses (level : Nat) (element : Element) :
    ElsesFollow element.preorder (elementEntries level element) := by
  induction element using Element.byParts generalizing level with
  | step element inside fallback =>
    have textFollows : ElsesFollow element.preorder (textEntries (level + 1) element) :=
      textEntries_inherits .nil (fun _ => .singleton fun _ same => nomatch same) element
    have insideFollows : ElsesFollow element.preorder (forestEntries (level + 1) element.inside) :=
      forestEntries_inherits .nil .append fun child among =>
        (inside child among (level + 1)).mono (element.preorder_subset (.inl among))
    have fallbackFollows :
        ElsesFollow element.preorder (forestEntries (level + 1) element.fallback) :=
      forestEntries_inherits .nil .append fun child among =>
        (fallback child among (level + 1)).mono (element.preorder_subset (.inr among))
    have firstFollows : ElsesFollow element.preorder (blockEntries level (.ofElement element)
        (textEntries (level + 1) element ++ forestEntries (level + 1) element.inside)) :=
      .block (Opening.ofElement_ne element) (textFollows.append insideFollows)
    rw [elementEntries_eq]
    -- The second block opens the one `else` that is not inside a child.
    split
    · exact firstFollows.append .nil
    · have closing : ElsesFollow element.preorder [.closing level Opening.otherwise.tag] :=
        .singleton fun _ same => nomatch same
      refine firstFollows.between ?_ (fallbackFollows.append closing)
      match element with
      | .conditional word condition body (some otherwise) =>
        exact ⟨word, condition, body, otherwise, Element.mem_preorder _, ⟨[], rfl⟩, [], rfl⟩

theorem textEntries_length (level : Nat) (element : Element) :
    (textEntries level element).length = [element].countP Element.hasText := by
  cases element with
  | display _ _ properties =>
    rw [textEntries, contentEntries, List.countP_singleton, Element.hasText]
    split <;> simp_all
  | conditional | iteration => rfl

/-- The number of lines that some elements take without what is inside them. -/
def lineCount (elements : List Element) : Nat :=
  2 * elements.length + elements.countP Element.hasText + 2 * elements.countP Element.hasFallback

theorem lineCount_append (first second : List Element) :
    lineCount (first ++ second) = lineCount first + lineCount second := by
  simp only [lineCount, List.length_append, List.countP_append]
  omega

theorem forestEntries_length {level : Nat} {forest : List Element}
    (each : ∀ element ∈ forest,
      (elementEntries level element).length = lineCount element.preorder) :
    (forestEntries level forest).length = lineCount (Element.preorderAll forest) := by
  induction forest with
  | nil => rw [forestEntries, Element.preorderAll]; rfl
  | cons element rest ih =>
    obtain ⟨first, later⟩ := List.forall_mem_cons.mp each
    rw [forestEntries, Element.preorderAll, List.length_append, lineCount_append, first, ih later]

theorem blockEntries_length (level : Nat) (opening : Opening) (inside : List Entry) :
    (blockEntries level opening inside).length = inside.length + 2 := by
  simp [blockEntries]

theorem elementEntries_length (level : Nat) (element : Element) :
    (elementEntries level element).length = lineCount element.preorder := by
  induction element using Element.byParts generalizing level with
  | step element inside fallback =>
    have insideLength := forestEntries_length fun child among => inside child among (level + 1)
    have fallbackLength := forestEntries_length fun child among => fallback child among (level + 1)
    have own : lineCount [element] =
        2 + [element].countP Element.hasText + if element.fallback.isEmpty then 0 else 2 := by
      rw [lineCount, List.countP_singleton (p := Element.hasFallback), Element.hasFallback]
      cases element.fallback.isEmpty <;> rfl
    rw [elementEntries_eq, Element.preorder_eq, ← List.singleton_append, lineCount_append,
      lineCount_append, own, List.length_append, blockEntries_length, List.length_append,
      textEntries_length, insideLength]
    split
    · rename_i none
      rw [List.isEmpty_iff.mp none, Element.preorderAll, List.length_nil]
      have : lineCount [] = 0 := rfl
      omega
    · rw [blockEntries_length, fallbackLength]
      omega

theorem Entry.line_otherwise (level : Nat) :
    (Entry.opening level .otherwise).line = levelLine level "<div v-else>" := by
  have written : tagText Opening.otherwise.tag Opening.otherwise.marks = "<div v-else>" := by decide
  rw [line, written]

theorem Entry.line_condition (level : Nat) (expression : Text) :
    (Entry.opening level (.condition expression)).line =
      levelLine level ("<" ++ conditionOpening expression ++ ">") := by
  rw [line, tagText, Opening.text_condition]

/-- An element is written in the same way at every level, two columns further in at each. Its lines
are one block, or two if it has something to fall back on, of a tag, what is in it in order, and the
same tag closed at the same level; no tag stays open and none is closed that is not open. Each
`v-else` comes right after the end of its `v-if`. There are two lines for each element, one for each
text and two for each `else`. -/
theorem element_rendered (level : Nat) (element : Element) :
    elementLines level element = (elementEntries level element).map Entry.line ∧
    elementLines (level + 1) element = (elementLines level element).map ("  ".toList ++ ·) ∧
    elementEntries level element =
      blockEntries level (.ofElement element)
        (textEntries (level + 1) element ++
          element.inside.flatMap (elementEntries (level + 1))) ++
      (if element.fallback.isEmpty then []
        else blockEntries level .otherwise
          (element.fallback.flatMap (elementEntries (level + 1)))) ∧
    (∀ opened : Opening, ∃ attributes : Text,
      (Entry.opening level opened).line =
        List.replicate (2 * level) ' ' ++ ("<" ++ opened.tag ++ attributes ++ ">") ∧
      (Entry.closing level opened.tag).line =
        List.replicate (2 * level) ' ' ++ ("</" ++ opened.tag ++ ">")) ∧
    unclosed? level [] (elementEntries level element) = some [] ∧
    (∀ deeper expression,
      (Entry.opening deeper (.condition expression)).line =
        levelLine deeper ("<" ++ conditionOpening expression ++ ">") ∧
      (Entry.opening deeper .otherwise).line = levelLine deeper "<div v-else>") ∧
    (∀ before deeper after,
      elementEntries level element = before ++ .opening deeper .otherwise :: after →
      BelongsTo (Element.walk [element]) before deeper after) ∧
    (elementLines level element).length =
      2 * (Element.walk [element]).length + (Element.walk [element]).countP Element.hasText +
        2 * (Element.walk [element]).countP Element.hasFallback := by
  have lines := elementEntries_line level element
  refine ⟨lines.symm, elementLines_succ level element, ?_, Entry.opening_closing level, ?_,
    fun deeper expression => ⟨Entry.line_condition deeper expression, Entry.line_otherwise deeper⟩,
    ?_, ?_⟩
  · rw [← forestEntries_eq_flatMap, ← forestEntries_eq_flatMap]
    exact elementEntries_eq level element
  · have closed := elementEntries_closed level element level [] [] rfl
    rwa [List.append_nil] at closed
  · rw [Element.walk_singleton]
    exact elementEntries_elses level element
  · rw [Element.walk_singleton, ← lines, List.length_map, elementEntries_length, lineCount]

theorem element_rendered_nested :
    let inner : Element := .conditional .ifWord "b" [] (some [.iteration "x" "xs" []])
    let element : Element :=
      .conditional .whenWord "a" [inner] (some [.display "card" "card" [("text", "\"Hi\"")] []])
    (elementLines 0 element).length = 13 ∧
    BelongsTo (Element.walk [element])
      [.opening 0 (.condition "a"), .opening 1 (.condition "b"), .closing 1 "div"] 1
      [.opening 2 (.iteration "x" "xs"), .closing 2 "div", .closing 1 "div", .closing 0 "div",
        .opening 0 .otherwise, .opening 1 (.display "card" [("text", "\"Hi\"")]),
        .content 2 "Hi", .closing 1 "div", .closing 0 "div"] := by
  intro inner element
  obtain ⟨_, _, _, _, _, _, follows, count⟩ := element_rendered 0 element
  rw [Element.walk_singleton element] at count
  exact ⟨count.trans (by decide), follows _ 1 _ (by decide)⟩

end Vue

end AppDescription
