import AppDescription.Proofs.DeclaredNames
import AppDescription.Proofs.LetterCase
import AppDescription.Proofs.PathForm
import AppDescription.Vue

namespace AppDescription

namespace Vue

/-- The names on the way down to the file that declares the models. -/
def modelsPlace : List Text :=
  ["src".toList, "types".toList, "models.ts".toList]

/-- The names on the way down to the store. -/
def storePlace : List Text :=
  ["src".toList, "stores".toList, "app.ts".toList]

/-- The names on the way down to the component of an interface. -/
def componentPlace (interface : Interface) : List Text :=
  ["src".toList, "components".toList, pascalCase interface.name ++ ".vue".toList]

theorem pascalCase_unbroken {name : Text} (named : name.IsName) : '/' ∉ pascalCase name := by
  intro slash
  have high : ∀ c ∈ name, 48 ≤ c.toNat := fun c member => le_toNat_of_isWord (named.2 c member)
  have bound := pascalCase_ge (by decide) high '/' slash
  exact absurd bound (by decide)

theorem componentName_isFileName {name : Text} (unbroken : '/' ∉ name) :
    Text.IsFileName (name ++ ".vue".toList) := by
  have differs {short : Text} (few : short.length < 4) : name ++ ".vue".toList ≠ short := by
    rintro rfl
    rw [List.length_append] at few
    exact absurd few (Nat.not_lt.mpr (Nat.le_add_left 4 name.length))
  refine ⟨differs (by decide), ?_, differs (by decide), differs (by decide)⟩
  rw [List.mem_append, not_or]
  exact ⟨unbroken, by decide⟩

theorem componentPlace_isFileName {interface : Interface} (named : interface.name.IsName) :
    ∀ name ∈ componentPlace interface, name.IsFileName := by
  have component := componentName_isFileName (pascalCase_unbroken named)
  exact List.forall_mem_cons.mpr ⟨by decide, List.forall_mem_cons.mpr ⟨by decide,
    List.forall_mem_singleton.mpr component⟩⟩

theorem modelsPlace_isFileName : ∀ name ∈ modelsPlace, name.IsFileName := by decide

theorem storePlace_isFileName : ∀ name ∈ storePlace, name.IsFileName := by decide

theorem modelsPath_eq : modelsPath = Text.join ['/'] modelsPlace := by decide

theorem storePath_eq : storePath = Text.join ['/'] storePlace := by decide

theorem componentPath_eq (interface : Interface) :
    componentPath interface = Text.join ['/'] (componentPlace interface) := by
  have folder : "src/components/".toList =
      "src".toList ++ ['/'] ++ ("components".toList ++ ['/']) := by decide
  unfold componentPath
  rw [folder, List.append_assoc, List.append_assoc, List.append_assoc "components".toList]
  rfl

theorem componentPath_inj {interface other : Interface} :
    componentPath interface = componentPath other ↔
      pascalCase interface.name = pascalCase other.name := by
  unfold componentPath
  rw [List.append_left_inj, List.append_right_inj]

/-- The artifacts of a document: the models, the store and the components. -/
theorem mem_artifacts {document : Document} {artifact : Artifact} :
    artifact ∈ artifacts document ↔
      modelsArtifact? document.data = some artifact ∨
        storeArtifact? document.data document.computed = some artifact ∨
          ∃ interface ∈ document.interfaces,
            componentArtifact document.computed interface = artifact := by
  simp [artifacts]

theorem modelsArtifact?_eq_some {models : List DataModel} {artifact : Artifact} :
    modelsArtifact? models = some artifact ↔
      models ≠ [] ∧ .ofLines modelsPath (modelsHeader ++ models.flatMap modelLines) = artifact := by
  unfold modelsArtifact?
  split
  · rename_i none
    simp [List.isEmpty_iff.mp none]
  · rename_i some
    simp [List.isEmpty_iff.not.mp some]

theorem storeArtifact?_eq_some {models : List DataModel} {computed : List ComputedValue}
    {artifact : Artifact} :
    storeArtifact? models computed = some artifact ↔
      (models ≠ [] ∨ computed ≠ []) ∧
        .ofLines storePath (storeLines models computed) = artifact := by
  unfold storeArtifact?
  split
  · rename_i none
    simp only [Bool.and_eq_true, List.isEmpty_iff] at none
    simp [none]
  · rename_i some
    simp only [Bool.and_eq_true, List.isEmpty_iff, not_and_or] at some
    simp [some]

end Vue

/-- An artifact that lies two folders below its output directory, at names that lead nowhere
else. -/
structure Artifact.LiesAt (artifact : Artifact) (names : List Text) : Prop where
  depth : names.length = 3
  proper : ∀ name ∈ names, name.IsFileName
  path : artifact.path = Text.join ['/'] names

namespace Artifact.LiesAt

variable {artifact other : Artifact} {names others : List Text}

theorem nonempty (place : artifact.LiesAt names) : names ≠ [] :=
  List.length_pos_iff.mp (by rw [place.depth]; decide)

theorem target (place : artifact.LiesAt names) (root : Location) :
    artifact.target root = root ++ names :=
  Artifact.target_eq place.nonempty place.proper place.path root

/-- A path gives its names back. -/
theorem names_eq (place : artifact.LiesAt names) (otherPlace : other.LiesAt others) :
    names = others ↔ artifact.path = other.path := by
  rw [place.path, otherPlace.path]
  constructor
  · rintro rfl
    rfl
  · intro same
    rw [← Text.splitOn_join place.nonempty fun name member => (place.proper name member).unbroken,
      same, Text.splitOn_join otherPlace.nonempty fun name member =>
        (otherPlace.proper name member).unbroken]

/-- Two artifacts share a place only if they share their output directory and their path. -/
theorem target_inj (place : artifact.LiesAt names) (otherPlace : other.LiesAt others)
    {root base : Location} :
    artifact.target root = other.target base ↔ root = base ∧ artifact.path = other.path := by
  rw [place.target, otherPlace.target, ← place.names_eq otherPlace]
  exact List.append_eq_append_iff_of_size_eq_right (place.depth.trans otherPlace.depth.symm)

end Artifact.LiesAt

namespace Vue

theorem modelsArtifact?_liesAt {models : List DataModel} {artifact : Artifact}
    (found : modelsArtifact? models = some artifact) : artifact.LiesAt modelsPlace := by
  obtain ⟨_, rfl⟩ := modelsArtifact?_eq_some.mp found
  exact ⟨rfl, modelsPlace_isFileName, modelsPath_eq⟩

theorem storeArtifact?_liesAt {models : List DataModel} {computed : List ComputedValue}
    {artifact : Artifact} (found : storeArtifact? models computed = some artifact) :
    artifact.LiesAt storePlace := by
  obtain ⟨_, rfl⟩ := storeArtifact?_eq_some.mp found
  exact ⟨rfl, storePlace_isFileName, storePath_eq⟩

theorem componentArtifact_liesAt {interface : Interface} (named : interface.name.IsName)
    (computed : List ComputedValue) :
    (componentArtifact computed interface).LiesAt (componentPlace interface) :=
  ⟨rfl, componentPlace_isFileName named, componentPath_eq interface⟩

/-- Every artifact of a document with names lies at names itself. -/
theorem artifacts_lieAt {document : Document} (named : document.IsNamed) :
    ∀ artifact ∈ artifacts document, ∃ names, artifact.LiesAt names := by
  intro artifact member
  rcases mem_artifacts.mp member with models | store | ⟨interface, among, rfl⟩
  · exact ⟨_, modelsArtifact?_liesAt models⟩
  · exact ⟨_, storeArtifact?_liesAt store⟩
  · exact ⟨_, componentArtifact_liesAt (named.interfaces interface among) _⟩

end Vue

end AppDescription
