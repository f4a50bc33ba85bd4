import AppDescription.Lint
import AppDescription.Proofs.CorrespondingOutlines
import AppDescription.Vue

namespace AppDescription

/-- A computed value as it is written on one line, with its source and nothing else. -/
def ComputedValue.inlined (value : ComputedValue) : ComputedValue :=
  ⟨value.name, value.source?, none, none, none⟩

@[simp]
theorem ComputedValue.inlined_name (value : ComputedValue) : value.inlined.name = value.name := rfl

@[simp]
theorem ComputedValue.inlined_source? (value : ComputedValue) :
    value.inlined.source? = value.source? :=
  Option.or_none

@[simp]
theorem ComputedValue.inlined_lacksSource (value : ComputedValue) :
    value.inlined.lacksSource = value.lacksSource := by
  rw [lacksSource, inlined_source?, lacksSource]

namespace Document

/-- A document with all its computed values on one line. -/
def inlined (document : Document) : Document :=
  { document with computed := document.computed.map ComputedValue.inlined }

theorem inlined_followedBy (document other : Document) :
    (document.followedBy other).inlined = document.inlined.followedBy other.inlined := by
  simp only [inlined, followedBy, List.map_append]

theorem inlined_names (document : Document) :
    document.inlined.computed.map ComputedValue.name = document.computed.map ComputedValue.name := by
  simp [inlined, Function.comp_def]

theorem inlined_sources (document : Document) :
    document.inlined.computed.map ComputedValue.source? =
      document.computed.map ComputedValue.source? := by
  simp [inlined, Function.comp_def]

theorem inlined_lintErrors (document : Document) :
    document.inlined.lintErrors = document.lintErrors := by
  simp [lintErrors, inlined, Function.comp_def]

theorem inlined_lintWarnings (document : Document) :
    document.inlined.lintWarnings = document.lintWarnings := by
  simp [lintWarnings, inlined, isEmpty, List.filter_map, Function.comp_def]

end Document

namespace Vue

theorem storeWarnings_inlined (computed : List ComputedValue) :
    storeWarnings (computed.map ComputedValue.inlined) = storeWarnings computed := by
  simp [storeWarnings, List.filter_map, Function.comp_def]

theorem computedLines_inlined (value : ComputedValue) :
    computedLines value.inlined = computedLines value := by
  rw [computedLines, ComputedValue.inlined_source?, ComputedValue.inlined_name, ← computedLines]

theorem storeLines_inlined (models : List DataModel) (computed : List ComputedValue) :
    storeLines models (computed.map ComputedValue.inlined) = storeLines models computed := by
  simp only [storeLines, storeNames, List.flatMap_map, List.map_map, Function.comp_def,
    computedLines_inlined, ComputedValue.inlined_name]

theorem computedHint_inlined (value : ComputedValue) :
    computedHint value.inlined = computedHint value := rfl

theorem computedHints_inlined (computed : List ComputedValue) :
    computedHints (computed.map ComputedValue.inlined) = computedHints computed := by
  simp only [computedHints, List.isEmpty_map, List.map_map, Function.comp_def, computedHint_inlined]

theorem componentArtifact_inlined (computed : List ComputedValue) :
    componentArtifact (computed.map ComputedValue.inlined) = componentArtifact computed := by
  funext interface
  simp only [componentArtifact, scriptLines, computedHints_inlined]

/-- Everything that is generated takes the source of a computed value only. -/
theorem artifacts_inlined (document : Document) :
    artifacts document.inlined = artifacts document := by
  simp only [artifacts, Document.inlined, storeArtifact?, List.isEmpty_map, storeLines_inlined,
    componentArtifact_inlined]

theorem warnings_inlined (document : Document) : warnings document.inlined = warnings document :=
  storeWarnings_inlined document.computed

end Vue

/-- Two documents that no finding and no generated file can tell apart. -/
structure Document.Interchangeable (document other : Document) : Prop where
  order : document.order = other.order
  names : document.computed.map ComputedValue.name = other.computed.map ComputedValue.name
  sources : document.computed.map ComputedValue.source? = other.computed.map ComputedValue.source?
  lintErrors : document.lintErrors = other.lintErrors
  lintWarnings : document.lintWarnings = other.lintWarnings
  artifacts : Vue.artifacts document = Vue.artifacts other
  warnings : Vue.warnings document = Vue.warnings other

/-- Documents whose computed values come to the same on one line are interchangeable. -/
theorem Document.Interchangeable.of_inlined {document other : Document}
    (same : document.inlined = other.inlined) : document.Interchangeable other where
  order := show document.inlined.order = other.inlined.order by rw [same]
  names := by rw [← inlined_names, same, inlined_names]
  sources := by rw [← inlined_sources, same, inlined_sources]
  lintErrors := by rw [← inlined_lintErrors, same, inlined_lintErrors]
  lintWarnings := by rw [← inlined_lintWarnings, same, inlined_lintWarnings]
  artifacts := by rw [← Vue.artifacts_inlined, same, Vue.artifacts_inlined]
  warnings := by rw [← Vue.warnings_inlined, same, Vue.warnings_inlined]

end AppDescription
