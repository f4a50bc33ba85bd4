import AppDescription.Proofs.Imports

namespace AppDescription

/-- Where a module has to lie that an artifact imports by a path. -/
def Artifact.moduleTarget (artifact : Artifact) (root : Location) (specifier : Text) : Location :=
  (Path.ofText (specifier ++ ".ts")).resolve (artifact.target root).dropLast

/-- Whatever one of the artifacts imports by a path is one of them. -/
def ImportClosed (artifacts : List Artifact) : Prop :=
  ∀ root, ∀ artifact ∈ artifacts, ∀ specifier ∈ artifact.relativeImports,
    ∃ other ∈ artifacts, other.target root = artifact.moduleTarget root specifier

/-- A module in a folder next to the one of an artifact lies below the folder of both. -/
theorem Artifact.LiesAt.moduleTarget {artifact : Artifact} {folder inner name : Text}
    (place : artifact.LiesAt [folder, inner, name]) {specifier : Text} {down : List Text}
    (written : Path.ofText (specifier ++ ".ts") = ⟨[], "..".toList :: down⟩)
    (proper : ∀ part ∈ down, part.IsFileName) (root : Location) :
    artifact.moduleTarget root specifier = root ++ folder :: down := by
  have here : (artifact.target root).dropLast = root ++ [folder, inner] := by
    rw [place.target, List.dropLast_append_of_ne_nil (by simp)]
    rfl
  have up : Location.step (root ++ [folder, inner]) "..".toList = root ++ [folder] := by
    rw [Location.step, if_pos rfl, List.dropLast_append_of_ne_nil (by simp)]
    rfl
  rw [Artifact.moduleTarget, here, written, Path.resolve, if_neg (by simp [Path.isAbsolute]),
    List.foldl_cons, up, Location.foldl_step fun part among => (proper part among).notAbove,
    List.append_assoc]
  rfl

namespace Vue

variable {document : Document}

/-- The store that a component takes is where the store of a document lies. -/
theorem componentArtifact_moduleTarget {interface : Interface} (named : interface.name.IsName)
    (computed : List ComputedValue) (root : Location) :
    (componentArtifact computed interface).moduleTarget root "../stores/app" =
      root ++ storePlace :=
  (componentArtifact_liesAt named computed).moduleTarget (by decide) (by decide) root

theorem storeArtifact?_moduleTarget {models : List DataModel} {computed : List ComputedValue}
    {artifact : Artifact} (found : storeArtifact? models computed = some artifact)
    (root : Location) : artifact.moduleTarget root "../types/models" = root ++ modelsPlace :=
  (storeArtifact?_liesAt found).moduleTarget (by decide) (by decide) root

/-- An artifact where the store belongs is the store. -/
theorem store_of_target {artifact : Artifact} (named : document.IsNamed)
    (member : artifact ∈ artifacts document) {root : Location}
    (there : artifact.target root = root ++ storePlace) :
    document.data ≠ [] ∨ document.computed ≠ [] := by
  rcases mem_artifacts.mp member with models | store | ⟨interface, among, rfl⟩
  · exact .inl (modelsArtifact?_eq_some.mp models).1
  · exact (storeArtifact?_eq_some.mp store).1
  · rw [(componentArtifact_liesAt (named.interfaces interface among) _).target,
      List.append_right_inj] at there
    injection there with _ elsewhere
    injection elsewhere with folder
    exact absurd folder (by decide)

end Vue

/-- The generated files import each other only, but for a component that finds no store: every
component takes one, and there is one if there are models or computed values. -/
theorem Document.imports_resolve {source : Text} {document : Document}
    (parsed : parse source = .ok document) :
    ImportClosed (Vue.artifacts document) ↔
      document.interfaces = [] ∨ document.data ≠ [] ∨ document.computed ≠ [] := by
  have named := isNamed_of_parse parsed
  constructor
  · intro closed
    refine or_iff_not_imp_left.mpr fun some => ?_
    obtain ⟨interface, member⟩ := List.exists_mem_of_ne_nil _ some
    have component := Vue.mem_artifacts.mpr (.inr (.inr ⟨interface, member, rfl⟩))
    have imports := Vue.componentArtifact_relativeImports named member
    obtain ⟨store, among, there⟩ :=
      closed [] _ component "../stores/app" (imports ▸ List.mem_singleton_self _)
    rw [Vue.componentArtifact_moduleTarget (named.interfaces interface member)] at there
    exact Vue.store_of_target named among there
  · intro stocked root artifact member specifier imported
    rcases Vue.mem_artifacts.mp member with models | store | ⟨interface, among, rfl⟩
    · rw [Vue.modelsArtifact?_relativeImports named models] at imported
      cases imported
    · rw [Vue.storeArtifact?_relativeImports named store] at imported
      split at imported
      · cases imported
      · rename_i some
        have models := Vue.modelsArtifact?_eq_some.mpr ⟨some, rfl⟩
        refine ⟨_, Vue.mem_artifacts.mpr (.inl models), ?_⟩
        rw [List.mem_singleton.mp imported, Vue.storeArtifact?_moduleTarget store,
          (Vue.modelsArtifact?_liesAt models).target]
    · rw [Vue.componentArtifact_relativeImports named among] at imported
      have stock := stocked.resolve_left (List.ne_nil_of_mem among)
      have store := Vue.storeArtifact?_eq_some.mpr ⟨stock, rfl⟩
      refine ⟨_, Vue.mem_artifacts.mpr (.inr (.inl store)), ?_⟩
      rw [List.mem_singleton.mp imported,
        Vue.componentArtifact_moduleTarget (named.interfaces interface among),
        (Vue.storeArtifact?_liesAt store).target]

theorem Document.imports_resolve_beside_computed : ∃ document,
    parse "interface Home:\n  show card:\ncomputed total: 1 + 1\n" = .ok document ∧
      ImportClosed (Vue.artifacts document) := by
  have faultless : (Outline.ofSource
      "interface Home:\n  show card:\ncomputed total: 1 + 1\n").fault? = none := by
    decide +kernel
  have parsed := parse_eq_ok.mpr ⟨faultless, rfl⟩
  exact ⟨_, parsed, (imports_resolve parsed).mpr (by decide +kernel)⟩

/-- An interface by itself takes a store that there is not. -/
theorem Document.imports_dangle : ∃ document, parse "interface Home:\n" = .ok document ∧
    ¬ImportClosed (Vue.artifacts document) := by
  refine ⟨_, parse_eq_ok.mpr ⟨by decide +kernel, rfl⟩, fun closed => ?_⟩
  have there := closed []
  revert there
  decide +kernel

end AppDescription
