import AppDescription.Proofs.Directives
import AppDescription.Proofs.OpeningTags

namespace AppDescription.Vue

/-- An attribute with a value. One whose value is made of an expression of the source has that
beside it, as it is spliced in. -/
structure Splice extends Attribute where
  expression? : Option Text

/-- The attribute that a property turns into. Quotes around the name of an icon are no part of what is
spliced in. -/
def propertySplice? (key value : Text) : Option Splice :=
  (attribute? key value).map fun written =>
    ⟨written, some (if written.name = "data-icon".toList then trimQuotes value else value)⟩

/-- What opens on a page. -/
inductive Opening where
  | template
  | root (name : Text)
  | display (kind : Text) (properties : Properties)
  | condition (expression : Text)
  | otherwise
  | iteration (item collection : Text)
  | script
  | style
  deriving DecidableEq

namespace Opening

def tag : Opening → Text
  | template => "template"
  | script => "script"
  | style => "style"
  | display kind _ => tagOf kind
  | root _ | condition _ | otherwise | iteration _ _ => "div"

/-- The attributes without a value. -/
def flags : Opening → List Text
  | otherwise => ["v-else"]
  | script => ["setup"]
  | style => ["scoped"]
  | template | root _ | display _ _ | condition _ | iteration _ _ => []

/-- The attributes with a value. -/
def splices : Opening → List Splice
  | root name => [⟨⟨"class", kebabCase name⟩, none⟩]
  | display kind properties =>
    ⟨⟨"class", kebabCase kind⟩, none⟩ ::
      properties.filterMap fun entry => propertySplice? entry.1 entry.2
  | condition expression => [⟨⟨"v-if", toCondition expression⟩, some expression⟩]
  | iteration item collection =>
    [⟨⟨"v-for", item ++ " in " ++ collection⟩, some collection⟩, ⟨⟨":key", item ++ ".id"⟩, none⟩]
  | script => [⟨⟨"lang", "ts"⟩, none⟩]
  | template | otherwise | style => []

def marks (opening : Opening) : List Mark :=
  opening.flags.map (⟨·, none⟩) ++
    opening.splices.map fun splice => ⟨splice.name, some splice.value⟩

def ofElement : Element → Opening
  | .display kind _ properties _ => display kind properties
  | .conditional _ expression _ _ => condition expression
  | .iteration item collection _ => iteration item collection

end Opening

/-- A line of a component, for what it is. Content may be of several lines. -/
inductive Entry where
  | opening (level : Nat) (opening : Opening)
  | content (level : Nat) (text : Text)
  | closing (level : Nat) (tag : Text)
  deriving DecidableEq

namespace Entry

def line : Entry → Text
  | opening level opened => levelLine level (tagText opened.tag opened.marks)
  | content level text => levelLine level text
  | closing level tag => levelLine level ("</" ++ tag ++ ">")

/-- What the entry opens, if that is an element. An `else` is part of one. -/
def element? : Entry → Option Opening
  | opening _ opened =>
    match opened with
    | .display .. | .condition _ | .iteration .. => some opened
    | .template | .root _ | .otherwise | .script | .style => none
  | content .. | closing .. => none

end Entry

def blockEntries (level : Nat) (opening : Opening) (inside : List Entry) : List Entry :=
  .opening level opening :: inside ++ [.closing level opening.tag]

def contentEntries (level : Nat) (properties : Properties) : List Entry :=
  match content? properties with
  | none | some [] => []
  | some content => [.content level content]

mutual

def elementEntries (level : Nat) : Element → List Entry
  | .display kind _ properties children =>
    blockEntries level (.display kind properties)
      (contentEntries (level + 1) properties ++ forestEntries (level + 1) children)
  | .conditional _ condition body none =>
    blockEntries level (.condition condition) (forestEntries (level + 1) body)
  | .conditional _ condition body (some otherwise) =>
    blockEntries level (.condition condition) (forestEntries (level + 1) body) ++
    if otherwise.isEmpty then []
    else blockEntries level .otherwise (forestEntries (level + 1) otherwise)
  | .iteration item collection body =>
    blockEntries level (.iteration item collection) (forestEntries (level + 1) body)

def forestEntries (level : Nat) : List Element → List Entry
  | [] => []
  | element :: rest => elementEntries level element ++ forestEntries level rest

end

def templateEntries (interface : Interface) : List Entry :=
  blockEntries 0 .template
    (blockEntries 1 (.root interface.name) (forestEntries 2 interface.elements)) ++ [.content 0 []]

def scriptEntries (computed : List ComputedValue) : List Entry :=
  blockEntries 0 .script ((scriptHeader.tail ++ computedHints computed).map (.content 0)) ++
    [.content 0 []]

def styleEntries (interface : Interface) : List Entry :=
  blockEntries 0 .style
    [.content 0 ("." ++ kebabCase interface.name ++ [' ', '{']), .content 0 ['}']]

/-- A component, entry by entry. -/
def componentEntries (computed : List ComputedValue) (interface : Interface) : List Entry :=
  templateEntries interface ++ scriptEntries computed ++ styleEntries interface

theorem blockEntries_line (level : Nat) (opening : Opening) (inside : List Entry) :
    (blockEntries level opening inside).map Entry.line =
      blockLines level opening.tag (Text.join [' '] (opening.tag :: opening.marks.map Mark.text))
        (inside.map Entry.line) := by
  simp [blockEntries, blockLines, Entry.line, tagText]

theorem contentEntries_line (level : Nat) (properties : Properties) :
    (contentEntries level properties).map Entry.line = contentLines level properties := by
  unfold contentEntries contentLines
  cases content? properties with
  | none => rfl
  | some content => cases content <;> rfl

theorem propertySplice?_attribute (key value : Text) :
    (propertySplice? key value).map Splice.toAttribute = attribute? key value := by
  unfold propertySplice?
  cases attribute? key value <;> rfl

namespace Opening

theorem text_display (kind : Text) (properties : Properties) :
    Text.join [' '] (tagOf kind :: (display kind properties).marks.map Mark.text) =
      displayOpening kind properties := by
  have same : (properties.filterMap fun entry => propertySplice? entry.1 entry.2).map
      Splice.toAttribute = attributes properties := by
    simp only [List.map_filterMap, propertySplice?_attribute, attributes]
  have written : (display kind properties).marks.map Mark.text =
      (⟨"class", kebabCase kind⟩ :: attributes properties).map Attribute.text := by
    rw [← same]
    simp [marks, flags, splices, Mark.text, Function.comp_def]
  rw [written, List.map_cons, Text.join]
  rfl

theorem text_condition (expression : Text) :
    Text.join [' '] ((condition expression).tag :: (condition expression).marks.map Mark.text) =
      conditionOpening expression := by
  have start : "div".toList ++ [' '] ++ "v-if".toList ++ "=\"".toList = "div v-if=\"".toList := by
    decide
  calc Text.join [' '] ((condition expression).tag :: (condition expression).marks.map Mark.text)
      = "div".toList ++ [' '] ++
          ("v-if".toList ++ "=\"".toList ++ toCondition expression ++ "\"".toList) := rfl
    _ = "div".toList ++ [' '] ++ "v-if".toList ++ "=\"".toList ++ toCondition expression ++
          "\"".toList := by simp only [List.append_assoc]
    _ = conditionOpening expression := congrArg (· ++ toCondition expression ++ "\"".toList) start

theorem text_iteration (item collection : Text) :
    Text.join [' '] ((iteration item collection).tag ::
      (iteration item collection).marks.map Mark.text) = iterationOpening item collection := by
  have start : "div".toList ++ [' '] ++ "v-for".toList ++ "=\"".toList = "div v-for=\"".toList := by
    decide
  have key : "\"".toList ++ [' '] ++ ":key".toList ++ "=\"".toList = "\" :key=\"".toList := by decide
  have ending : ".id".toList ++ "\"".toList = ".id\"".toList := by decide
  calc Text.join [' '] ((iteration item collection).tag ::
          (iteration item collection).marks.map Mark.text)
      = "div".toList ++ [' '] ++
          ("v-for".toList ++ "=\"".toList ++ (item ++ " in ".toList ++ collection) ++ "\"".toList ++
            [' '] ++ (":key".toList ++ "=\"".toList ++ (item ++ ".id".toList) ++ "\"".toList)) := rfl
    _ = ("div".toList ++ [' '] ++ "v-for".toList ++ "=\"".toList) ++ item ++ " in ".toList ++
          collection ++ ("\"".toList ++ [' '] ++ ":key".toList ++ "=\"".toList) ++ item ++
          (".id".toList ++ "\"".toList) := by simp only [List.append_assoc]
    _ = iterationOpening item collection := by
        rw [start, key, ending]
        rfl

end Opening

mutual

/-- The entries of an element are its lines. -/
theorem elementEntries_line (level : Nat) : ∀ element : Element,
    (elementEntries level element).map Entry.line = elementLines level element
  | .display kind name properties children => by
    rw [elementEntries, elementLines, blockEntries_line, List.map_append, contentEntries_line,
      forestEntries_line (level + 1) children]
    exact congrArg (blockLines level (tagOf kind) · _) (Opening.text_display kind properties)
  | .conditional _ expression body none => by
    rw [elementEntries, elementLines, blockEntries_line, forestEntries_line (level + 1) body]
    exact congrArg (blockLines level "div" · _) (Opening.text_condition expression)
  | .conditional _ expression body (some otherwise) => by
    rw [elementEntries, elementLines, List.map_append, blockEntries_line,
      forestEntries_line (level + 1) body]
    have branch : (if otherwise.isEmpty then []
        else blockEntries level .otherwise (forestEntries (level + 1) otherwise)).map Entry.line =
        if otherwise.isEmpty then []
        else blockLines level "div" "div v-else" (forestLines (level + 1) otherwise) := by
      split
      · rfl
      · rw [blockEntries_line, forestEntries_line (level + 1) otherwise]
        rfl
    rw [branch]
    exact congrArg (blockLines level "div" · _ ++ _) (Opening.text_condition expression)
  | .iteration item collection body => by
    rw [elementEntries, elementLines, blockEntries_line, forestEntries_line (level + 1) body]
    exact congrArg (blockLines level "div" · _) (Opening.text_iteration item collection)

theorem forestEntries_line (level : Nat) : ∀ forest : List Element,
    (forestEntries level forest).map Entry.line = forestLines level forest
  | [] => by rw [forestEntries, forestLines, List.map_nil]
  | element :: rest => by
    rw [forestEntries, forestLines, List.map_append, elementEntries_line level element,
      forestEntries_line level rest]

end

theorem Entry.line_root (name : Text) :
    (opening 1 (.root name)).line = "  <div class=\"" ++ kebabCase name ++ "\">" := by
  have start : "  ".toList ++ "<".toList ++ "div".toList ++ [' '] ++ "class".toList ++
      "=\"".toList = "  <div class=\"".toList := by decide
  have ending : "\"".toList ++ ">".toList = "\">".toList := by decide
  calc (opening 1 (.root name)).line
      = "  ".toList ++ ("<".toList ++ ("div".toList ++ [' '] ++
          ("class".toList ++ "=\"".toList ++ kebabCase name ++ "\"".toList)) ++ ">".toList) := rfl
    _ = ("  ".toList ++ "<".toList ++ "div".toList ++ [' '] ++ "class".toList ++ "=\"".toList) ++
          kebabCase name ++ ("\"".toList ++ ">".toList) := by simp only [List.append_assoc]
    _ = "  <div class=\"" ++ kebabCase name ++ "\">" := by rw [start, ending]

theorem Entry.line_content (text : Text) : (content 0 text).line = text := rfl

theorem templateEntries_line (interface : Interface) :
    (templateEntries interface).map Entry.line = templateLines interface := by
  have outer : (Entry.opening 0 .template).line = "<template>" ∧
      (Entry.closing 0 Opening.template.tag).line = "</template>" := by decide
  have div : levelLine 1 ("</" ++ "div" ++ ">") = "  </div>" := by decide
  have inner : (Entry.closing 1 (Opening.root interface.name).tag).line = "  </div>" := div
  simp only [templateEntries, blockEntries, List.map_append, List.map_cons, List.map_nil,
    forestEntries_line, outer, inner, Entry.line_root, Entry.line_content]
  simp [templateLines, templateOpening, templateClosing]

theorem scriptEntries_line (computed : List ComputedValue) :
    (scriptEntries computed).map Entry.line = scriptLines computed := by
  have opens : (Entry.opening 0 .script).line :: scriptHeader.tail = scriptHeader := by decide
  have closes : (Entry.closing 0 Opening.script.tag).line = "</script>" := by decide
  have inside (lines : List Text) : (lines.map (Entry.content 0)).map Entry.line = lines := by
    rw [List.map_map]
    exact List.map_id lines
  simp only [scriptEntries, blockEntries, List.map_append, List.map_cons, List.map_nil, inside,
    closes, Entry.line_content, scriptLines, scriptClosing]
  rw [← List.cons_append, opens]
  simp

theorem styleEntries_line (interface : Interface) :
    (styleEntries interface).map Entry.line = styleLines interface := by
  have outer : (Entry.opening 0 .style).line = "<style scoped>" ∧
      (Entry.closing 0 Opening.style.tag).line = "</style>" := by decide
  simp only [styleEntries, blockEntries, List.map_cons, List.map_nil, outer, Entry.line_content,
    styleLines, List.cons_append, List.nil_append]

/-- A component is written entry by entry. -/
theorem componentEntries_line (computed : List ComputedValue) (interface : Interface) :
    (componentEntries computed interface).map Entry.line =
      templateLines interface ++ scriptLines computed ++ styleLines interface := by
  rw [componentEntries, List.map_append, List.map_append, templateEntries_line, scriptEntries_line,
    styleEntries_line]

theorem blockEntries_element? (level : Nat) (opening : Opening) (inside : List Entry) :
    (blockEntries level opening inside).filterMap Entry.element? =
      (Entry.opening level opening).element?.toList ++ inside.filterMap Entry.element? := by
  have closing : (Entry.closing level opening.tag).element? = none := rfl
  cases opened : (Entry.opening level opening).element? <;> simp [blockEntries, opened, closing]

theorem contentEntries_element? (level : Nat) (properties : Properties) :
    (contentEntries level properties).filterMap Entry.element? = [] := by
  unfold contentEntries
  split <;> rfl

mutual

/-- Elements open on the page in the order in which they are visited. -/
theorem elementEntries_walk (level : Nat) : ∀ element : Element,
    (elementEntries level element).filterMap Entry.element? =
      (Element.walk [element]).map Opening.ofElement
  | .display kind name properties children => by
    rw [elementEntries, blockEntries_element?, List.filterMap_append, contentEntries_element?,
      forestEntries_walk (level + 1) children, Element.walk, Element.children, List.append_nil]
    rfl
  | .conditional word expression body none => by
    rw [elementEntries, blockEntries_element?, forestEntries_walk (level + 1) body, Element.walk,
      Element.children, Option.getD_none, List.append_nil, List.append_nil]
    rfl
  | .conditional word expression body (some otherwise) => by
    have branch : (if otherwise.isEmpty then []
        else blockEntries level .otherwise (forestEntries (level + 1) otherwise)).filterMap
          Entry.element? = (Element.walk otherwise).map Opening.ofElement := by
      cases otherwise with
      | nil => simp [Element.walk]
      | cons first rest =>
        rw [List.isEmpty_cons, if_neg Bool.false_ne_true, blockEntries_element?,
          forestEntries_walk (level + 1) (first :: rest)]
        rfl
    rw [elementEntries, List.filterMap_append, branch, blockEntries_element?,
      forestEntries_walk (level + 1) body, Element.walk, Element.children, Option.getD_some,
      List.append_nil, Element.walk_append, List.map_cons, List.map_append]
    rfl
  | .iteration item collection body => by
    rw [elementEntries, blockEntries_element?, forestEntries_walk (level + 1) body, Element.walk,
      Element.children, List.append_nil]
    rfl

theorem forestEntries_walk (level : Nat) : ∀ forest : List Element,
    (forestEntries level forest).filterMap Entry.element? =
      (Element.walk forest).map Opening.ofElement
  | [] => by rw [forestEntries, Element.walk, List.filterMap_nil, List.map_nil]
  | element :: rest => by
    rw [forestEntries, List.filterMap_append, elementEntries_walk level element,
      forestEntries_walk level rest, ← List.map_append, ← Element.walk_append,
      List.singleton_append]

end

/-- The elements of an interface open in its component in the order in which they are visited. -/
theorem componentEntries_walk (computed : List ComputedValue) (interface : Interface) :
    (componentEntries computed interface).filterMap Entry.element? =
      interface.walk.map Opening.ofElement := by
  have content (lines : List Text) :
      (lines.map (Entry.content 0)).filterMap Entry.element? = [] := by
    simp [List.filterMap_map, Function.comp_def, Entry.element?]
  simp only [componentEntries, templateEntries, scriptEntries, styleEntries, List.filterMap_append,
    blockEntries_element?, content, forestEntries_walk]
  simp [Entry.element?, Interface.walk]

end AppDescription.Vue
