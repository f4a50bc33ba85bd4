import AppDescription.Proofs.ArtifactLines
import AppDescription.Proofs.Directives
import AppDescription.Proofs.Identifiers

namespace AppDescription

namespace Vue

/-- What a directive makes of a name in its expression: the spelling of the name takes its place,
and that is the name itself unless the name is snake case. -/
structure Respelled (name expression : Text) : Prop where
  spelled : spelling name ∈ identifiers (toCondition expression)
  kept : name ∈ identifiers (toCondition expression) ↔ isSnakeCase name = false

theorem respelled {name expression : Text} (among : name ∈ identifiers expression) :
    Respelled name expression where
  spelled := identifiers_toCondition expression ▸ List.mem_map_of_mem among
  kept := mem_identifiers_toCondition among

end Vue

open Vue

/-- The names of a document on the page of an interface. A loop binds its item as it is named, the
store gives out computed values as they are named and models declare fields as they are named. A
directive refers to all of these by their spelling, and so by their names unless they are snake
case. -/
theorem Document.names_respelled {source : Text} {document : Document}
    (parsed : parse source = .ok document) {interface : Interface}
    (member : interface ∈ document.interfaces) :
    ∃ component ∈ artifacts document, component.path = componentPath interface ∧
      (∀ item collection body, .iteration item collection body ∈ interface.walk →
        ∀ element ∈ Element.walk body, ∀ expression directive,
          (expression, directive) ∈ directives element →
          (∃ level, loopText level item collection body <:+: component.content ∧
            directive <:+: Text.join ['\n'] (forestLines (level + 1) body)) ∧
          (item ∈ identifiers expression → Respelled item expression)) ∧
      ∀ element ∈ interface.walk, ∀ expression directive,
        (expression, directive) ∈ directives element →
        directive <:+: component.content ∧
        identifiers (toCondition expression) = (identifiers expression).map spelling ∧
        (∀ value ∈ document.computed, value.name ∈ identifiers expression →
          (∃ store ∈ artifacts document, store.path = storePath ∧
            exportLine value.name ∈ Text.splitOn '\n' store.content) ∧
          Respelled value.name expression) ∧
        ∀ model ∈ document.data, ∀ field ∈ model.fields, field.name ∈ identifiers expression →
          (∃ models ∈ artifacts document, models.path = modelsPath ∧
            memberLine field ∈ Text.splitOn '\n' models.content) ∧
          Respelled field.name expression := by
  have named := isNamed_of_parse parsed
  refine ⟨_, mem_artifacts.mpr (.inr (.inr ⟨interface, member, rfl⟩)), rfl, ?_, ?_⟩
  · intro item collection body looped element among expression directive states
    obtain ⟨level, onPage⟩ := loop_emitted looped (forest_nonempty among) 2
    have page := forest_emitted document.computed (forest_nonempty looped)
    exact ⟨⟨level, onPage.trans page, directive_emitted among states (level + 1)⟩, respelled⟩
  · intro element among expression directive states
    have page := forest_emitted document.computed (forest_nonempty among)
    refine ⟨(directive_emitted among states 2).trans page, identifiers_toCondition expression,
      ?_, ?_⟩
    · intro value inComputed mentioned
      exact ⟨returns_computed named inComputed, respelled mentioned⟩
    · intro model inData field inModel mentioned
      exact ⟨declares_field named inData inModel, respelled mentioned⟩

theorem Document.names_respelled_total :
    let source : Text :=
      "computed total: 1 + 1\ninterface Home:\n  when total and not busy:\n    show card:\n"
    ∃ document, parse source = .ok document ∧ ∃ interface ∈ document.interfaces,
      ∃ component ∈ artifacts document, component.path = componentPath interface ∧
        ∃ element ∈ interface.walk, ∃ entry ∈ directives element,
          entry.1 = "total and not busy" ∧ entry.2 <:+: component.content ∧
            Respelled "total" entry.1 := by
  intro source
  have faultless : (Outline.ofSource source).fault? = none := by decide +kernel
  have parsed := parse_eq_ok.mpr ⟨faultless, rfl⟩
  have directed : ∃ interface ∈ (ofDeclarations (Outline.ofSource source).declarations).interfaces,
      ∃ element ∈ interface.walk, ∃ entry ∈ directives element,
        entry.1 = "total and not busy" := by decide +kernel
  have computed : ∃ value ∈ (ofDeclarations (Outline.ofSource source).declarations).computed,
      value.name = "total" := by decide +kernel
  obtain ⟨interface, member, element, among, ⟨expression, directive⟩, states, rfl⟩ := directed
  obtain ⟨value, inComputed, name⟩ := computed
  obtain ⟨component, generated, path, _, all⟩ := names_respelled parsed member
  obtain ⟨written, _, values, _⟩ := all element among _ _ states
  have mentioned : value.name ∈ identifiers "total and not busy" := name ▸ by decide +kernel
  exact ⟨_, parsed, interface, member, component, generated, path, element, among, _, states, rfl,
    written, name ▸ (values value inComputed mentioned).2⟩

/-- The item of a loop is bound in snake case and referred to in camel case. -/
theorem Document.loop_item_respelled : ∃ document,
    parse "interface Home:\n  for_each my_post in posts:\n    when my_post.liked:\n      show card:\n" =
      .ok document ∧
    ∃ interface ∈ document.interfaces, ∃ loop ∈ interface.walk,
      openingOf loop = iterationOpening "my_post" "posts" ∧
      ∃ element ∈ Element.walk loop.children, ∃ entry ∈ directives element,
        "my_post".toList ∈ identifiers entry.1 ∧
          "my_post".toList ∉ identifiers (toCondition entry.1) := by
  let source : Text :=
    "interface Home:\n  for_each my_post in posts:\n    when my_post.liked:\n      show card:\n"
  have faultless : (Outline.ofSource source).fault? = none := by decide +kernel
  have looped : ∃ interface ∈ (ofDeclarations (Outline.ofSource source).declarations).interfaces,
      ∃ loop ∈ interface.walk, openingOf loop = iterationOpening "my_post" "posts" ∧
        ∃ element ∈ Element.walk loop.children, ∃ entry ∈ directives element,
          entry.1 = "my_post.liked" := by decide +kernel
  have read : "my_post".toList ∈ identifiers "my_post.liked" := by decide +kernel
  have respelled : "my_post".toList ∉ identifiers (toCondition "my_post.liked") := by
    decide +kernel
  obtain ⟨interface, member, loop, among, opening, element, inside, entry, directive, states⟩ :=
    looped
  refine ⟨_, parse_eq_ok.mpr ⟨faultless, rfl⟩, interface, member, loop, among, opening, element,
    inside, entry, directive, ?_⟩
  rw [states]
  exact ⟨read, respelled⟩

end AppDescription
