import Mathlib.Data.List.Nodup
import AppDescription.Lint
import AppDescription.Proofs.ArtifactPlace
import AppDescription.Proofs.Writing

namespace AppDescription

theorem duplicates_eq_nil {names : List Text} : duplicates names = [] ↔ names.Nodup := by
  rw [List.nodup_iff_count_le_one]
  simp only [duplicates, Text.sort, List.eq_nil_iff_forall_not_mem, List.mem_mergeSort,
    List.mem_eraseDups, List.mem_filter, decide_eq_true_eq, not_and, not_lt]
  constructor
  · intro once name
    by_cases among : name ∈ names
    · exact once name among
    · rw [List.count_eq_zero_of_not_mem among]
      exact Nat.zero_le 1
  · exact fun once name _ => once name

/-- A valid document has one model, one interface and one computed value of each name. -/
theorem Document.names_nodup {document : Document} (valid : document.lintErrors = []) :
    (document.data.map DataModel.name).Nodup ∧ (document.interfaces.map Interface.name).Nodup ∧
      (document.computed.map ComputedValue.name).Nodup := by
  simp only [lintErrors, List.append_eq_nil_iff, List.map_eq_nil_iff] at valid
  obtain ⟨⟨⟨⟨models, interfaces⟩, computed⟩, _⟩, _⟩ := valid
  exact ⟨duplicates_eq_nil.mp models, duplicates_eq_nil.mp interfaces,
    duplicates_eq_nil.mp computed⟩

namespace Vue

variable {document : Document}

theorem componentPath_start (interface : Interface) :
    "src/components/".toList <+: componentPath interface :=
  ⟨pascalCase interface.name ++ ".vue".toList, (List.append_assoc _ _ _).symm⟩

/-- A component lies in a folder of its own kind. -/
theorem componentPath_ne {path : Text} (elsewhere : ¬"src/components/".toList <+: path)
    (interface : Interface) : componentPath interface ≠ path := by
  rintro rfl
  exact elsewhere (componentPath_start interface)

theorem modelsArtifact?_path {models : List DataModel} {artifact : Artifact}
    (found : modelsArtifact? models = some artifact) : artifact.path = modelsPath := by
  obtain ⟨_, rfl⟩ := modelsArtifact?_eq_some.mp found
  rfl

theorem storeArtifact?_path {models : List DataModel} {computed : List ComputedValue}
    {artifact : Artifact} (found : storeArtifact? models computed = some artifact) :
    artifact.path = storePath := by
  obtain ⟨_, rfl⟩ := storeArtifact?_eq_some.mp found
  rfl

/-- Only components can share a path. -/
theorem paths_nodup : ((artifacts document).map Artifact.path).Nodup ↔
    (document.interfaces.map componentPath).Nodup := by
  have models : ∀ path ∈ (modelsArtifact? document.data).toList.map Artifact.path,
      path = modelsPath := by
    simpa using fun artifact found => modelsArtifact?_path found
  have store : ∀ path ∈ (storeArtifact? document.data document.computed).toList.map Artifact.path,
      path = storePath := by
    simpa using fun artifact found => storeArtifact?_path found
  have components : (document.interfaces.map (componentArtifact document.computed)).map
      Artifact.path = document.interfaces.map componentPath := List.map_map
  have one {artifact? : Option Artifact} : (artifact?.toList.map Artifact.path).Nodup := by
    cases artifact? <;> simp
  rw [artifacts, List.map_append, List.map_append, components, List.nodup_append',
    List.nodup_append']
  refine ⟨fun all => all.2.1, fun distinct => ⟨⟨one, one, ?_⟩, distinct, ?_⟩⟩
  · intro path inModels inStore
    have same := (models path inModels).symm.trans (store path inStore)
    exact absurd same (by decide)
  · intro path inShared inComponents
    obtain ⟨interface, _, rfl⟩ := List.mem_map.mp inComponents
    rcases List.mem_append.mp inShared with inModels | inStore
    · exact componentPath_ne (by decide) interface (models _ inModels)
    · exact componentPath_ne (by decide) interface (store _ inStore)

/-- In a valid document different interfaces share a path if their names share a form. -/
theorem componentPaths_nodup (valid : document.lintErrors = []) :
    (document.interfaces.map componentPath).Nodup ↔
      ∀ interface ∈ document.interfaces, ∀ other ∈ document.interfaces,
        pascalCase interface.name = pascalCase other.name → interface.name = other.name := by
  have names := (document.names_nodup valid).2.1
  rw [List.nodup_map_iff_inj_on names.of_map]
  constructor
  · intro distinct interface member other otherMember same
    rw [distinct interface member other otherMember (componentPath_inj.mpr same)]
  · intro distinct interface member other otherMember same
    exact List.inj_on_of_nodup_map names member otherMember
      (distinct interface member other otherMember (componentPath_inj.mp same))

/-- Artifacts that share a path are alike exactly if this is true of the components. -/
theorem artifacts_agree : (∀ artifact ∈ artifacts document, ∀ other ∈ artifacts document,
      artifact.path = other.path → artifact.content = other.content) ↔
    ∀ interface ∈ document.interfaces, ∀ other ∈ document.interfaces,
      pascalCase interface.name = pascalCase other.name →
        (componentArtifact document.computed interface).content =
          (componentArtifact document.computed other).content := by
  constructor
  · intro agree interface member other otherMember same
    exact agree _ (mem_artifacts.mpr (.inr (.inr ⟨interface, member, rfl⟩)))
      _ (mem_artifacts.mpr (.inr (.inr ⟨other, otherMember, rfl⟩))) (componentPath_inj.mpr same)
  · intro agree artifact member other otherMember same
    rcases mem_artifacts.mp member with models | store | ⟨interface, among, rfl⟩ <;>
      rcases mem_artifacts.mp otherMember with models' | store' | ⟨interface', among', rfl⟩
    · rw [Option.some.inj (models.symm.trans models')]
    · rw [modelsArtifact?_path models, storeArtifact?_path store'] at same
      exact absurd same (by decide)
    · rw [modelsArtifact?_path models] at same
      exact absurd same.symm (componentPath_ne (by decide) interface')
    · rw [storeArtifact?_path store, modelsArtifact?_path models'] at same
      exact absurd same (by decide)
    · rw [Option.some.inj (store.symm.trans store')]
    · rw [storeArtifact?_path store] at same
      exact absurd same.symm (componentPath_ne (by decide) interface')
    · rw [modelsArtifact?_path models'] at same
      exact absurd same (componentPath_ne (by decide) interface)
    · rw [storeArtifact?_path store'] at same
      exact absurd same (componentPath_ne (by decide) interface)
    · exact agree interface among interface' among' (componentPath_inj.mp same)

end Vue

variable {source : Text} {document : Document}

/-- The files of a valid document have distinct paths exactly if the names of its interfaces stay
distinct in the form that paths have. Files that are written without a fault are then all there, and
otherwise they are exactly if components that share a path are the same. -/
theorem Document.artifacts_distinct (parsed : parse source = .ok document)
    (valid : document.lintErrors = []) :
    (((Vue.artifacts document).map Artifact.path).Nodup ↔
      ∀ interface ∈ document.interfaces, ∀ other ∈ document.interfaces,
        Vue.pascalCase interface.name = Vue.pascalCase other.name →
          interface.name = other.name) ∧
    ∀ (root : Location) (tree : FileTree),
      (tree.writeArtifacts root (Vue.artifacts document)).fault? = none →
      ((∀ artifact ∈ Vue.artifacts document,
          (tree.writeArtifacts root (Vue.artifacts document)).files.node? (artifact.target root) =
            some (.file (Utf8.encode artifact.content))) ↔
        ∀ interface ∈ document.interfaces, ∀ other ∈ document.interfaces,
          Vue.pascalCase interface.name = Vue.pascalCase other.name →
            (Vue.componentArtifact document.computed interface).content =
              (Vue.componentArtifact document.computed other).content) := by
  refine ⟨Vue.paths_nodup.trans (Vue.componentPaths_nodup valid), ?_⟩
  intro root tree faultless
  rw [FileTree.writeArtifacts_all faultless, ← Vue.artifacts_agree]
  have places := Vue.artifacts_lieAt (isNamed_of_parse parsed)
  constructor
  · intro agree artifact member other otherMember same
    obtain ⟨_, place⟩ := places artifact member
    obtain ⟨_, otherPlace⟩ := places other otherMember
    exact agree artifact member other otherMember ((place.target_inj otherPlace).mpr ⟨rfl, same⟩)
  · intro agree artifact member other otherMember same
    obtain ⟨_, place⟩ := places artifact member
    obtain ⟨_, otherPlace⟩ := places other otherMember
    exact agree artifact member other otherMember ((place.target_inj otherPlace).mp same).2

theorem Document.artifacts_distinct_home : ∃ document,
    parse "interface home:\ninterface post_feed:\n" = .ok document ∧ document.lintErrors = [] ∧
      ((Vue.artifacts document).map Artifact.path).Nodup ∧
      (FileTree.writeArtifacts ["out".toList] (Vue.artifacts document) []).fault? = none ∧
      ∀ artifact ∈ Vue.artifacts document,
        (FileTree.writeArtifacts ["out".toList] (Vue.artifacts document) []).files.node?
          (artifact.target ["out".toList]) = some (.file (Utf8.encode artifact.content)) := by
  have faultless : (Outline.ofSource "interface home:\ninterface post_feed:\n").fault? = none := by
    decide +kernel
  have parsed := parse_eq_ok.mpr ⟨faultless, rfl⟩
  obtain ⟨paths, files⟩ := artifacts_distinct parsed (by decide +kernel)
  refine ⟨_, parsed, by decide +kernel, paths.mpr (by decide +kernel), ?written,
    (files _ _ ?written).mpr (by decide +kernel)⟩
  decide +kernel

/-- Two valid interfaces whose names differ lose one of their components to the other: both go to
`AB.vue`. -/
theorem Document.artifacts_collide : ∃ document,
    parse "interface a_b:\ninterface aB:\n" = .ok document ∧ document.lintErrors = [] ∧
      ¬((Vue.artifacts document).map Artifact.path).Nodup := by
  refine ⟨_, parse_eq_ok.mpr ⟨?_, rfl⟩, ?_, ?_⟩ <;> decide +kernel

end AppDescription
