import AppDescription.Proofs.BuildTrace
import AppDescription.Proofs.Discovery

namespace AppDescription

namespace Path

/-- A stem is never nothing, and all its characters are in the name. -/
theorem stem_spec {path : Path} (named : path.name ≠ []) :
    path.stem ≠ [] ∧ ∀ c ∈ path.stem, c ∈ path.name := by
  unfold stem
  dsimp only
  split
  · exact ⟨named, fun c member => member⟩
  · rename_i extended
    simp only [Bool.or_eq_true, List.isEmpty_iff, not_or] at extended
    refine ⟨by simpa using extended.2, fun c member => ?_⟩
    have among := List.mem_of_mem_drop (List.mem_of_mem_drop (List.mem_reverse.mp member))
    exact List.mem_reverse.mp among

end Path

namespace Location

/-- The texts that name no place below a folder. -/
def dots : List Text :=
  [".", ".."]

/-- The place that a name leads to from a folder. -/
def enter (root : Location) (name : Text) : Location :=
  if name = ".".toList then root else root.step name

/-- Two names that lead to one place from a folder. -/
def Meet (root : Location) (name other : Text) : Prop :=
  name = other ∨ root = [] ∧ name ∈ dots ∧ other ∈ dots

variable {root : Location} {name other : Text}

theorem meet_comm : root.Meet name other ↔ root.Meet other name := by
  unfold Meet
  rw [eq_comm, and_comm (a := name ∈ dots)]

theorem Meet.mem_dots (meet : root.Meet name other) : name ∈ dots ↔ other ∈ dots := by
  rcases meet with rfl | ⟨_, turn, turn'⟩
  · rfl
  · exact iff_of_true turn turn'

theorem enter_of_dots (turn : name ∈ dots) : root.enter name <+: root := by
  rcases List.mem_pair.mp turn with rfl | rfl
  · exact List.prefix_rfl
  · exact List.dropLast_prefix root

theorem enter_of_not_dots (down : name ∉ dots) : root.enter name = root ++ [name] := by
  simp only [dots, List.mem_cons, List.not_mem_nil, or_false, not_or] at down
  rw [enter, if_neg down.1, step, if_neg down.2]

theorem enter_ne (turn : name ∈ dots) (down : other ∉ dots) :
    root.enter name ≠ root.enter other := by
  intro same
  have short : (root.enter name).length ≤ root.length := (enter_of_dots turn).length_le
  rw [same, enter_of_not_dots down, List.length_append] at short
  exact absurd short (by simp)

theorem dropLast_eq_self : List.dropLast root = root ↔ root = [] := by
  constructor
  · intro same
    have length := congrArg List.length same
    rw [List.length_dropLast] at length
    exact List.length_eq_zero_iff.mp (by omega)
  · rintro rfl
    rfl

theorem meet_here_above : root.Meet "." ".." ↔ root = [] := by
  simp [Meet, dots]

/-- Where two names lead is one place only if they meet. -/
theorem enter_inj : root.enter name = root.enter other ↔ root.Meet name other := by
  by_cases turn : name ∈ dots <;> by_cases turn' : other ∈ dots
  -- a dot leads no further down than the folder, and the two dots agree only at the top
  · rcases List.mem_pair.mp turn with rfl | rfl <;> rcases List.mem_pair.mp turn' with rfl | rfl
    · exact iff_of_true rfl (.inl rfl)
    · exact eq_comm.trans (dropLast_eq_self.trans meet_here_above.symm)
    · exact dropLast_eq_self.trans (meet_here_above.symm.trans meet_comm)
    · exact iff_of_true rfl (.inl rfl)
  · exact iff_of_false (enter_ne turn turn') fun meet => turn' (meet.mem_dots.mp turn)
  · exact iff_of_false (enter_ne turn' turn).symm fun meet => turn (meet.mem_dots.mpr turn')
  · rw [enter_of_not_dots turn, enter_of_not_dots turn', List.append_right_inj,
      List.singleton_inj]
    simp [Meet, turn]

end Location

/-- The stem of the name at a location. -/
def Location.stem (location : Location) : Text :=
  (Path.ofLocation location).stem

theorem Location.stem_isFileName {location : Location} (proper : location.IsProper)
    (below : location ≠ []) (down : location.stem ∉ dots) : location.stem.IsFileName := by
  have named : (Path.ofLocation location).name = location.getLast below := by
    rw [Path.name, Path.ofLocation, List.getLast?_eq_some_getLast below, Option.getD_some]
  have last := proper _ (List.getLast_mem below)
  rw [← named] at last
  obtain ⟨nonempty, among⟩ := Path.stem_spec last.nonempty
  simp only [dots, List.mem_cons, List.not_mem_nil, or_false, not_or] at down
  exact ⟨nonempty, fun slash => last.unbroken (among _ slash), down.1, down.2⟩

/-- A stem that is taken for a path leads to a place of its own name. -/
theorem Path.resolve_append_ofText {name : Text} (fine : name ∉ Location.dots → name.IsFileName)
    (base : Path) (directory : Location) :
    (base.append (.ofText name)).resolve directory = (base.resolve directory).enter name := by
  by_cases turn : name ∈ Location.dots
  · rcases List.mem_pair.mp turn with rfl | rfl
    · exact Path.resolve_append rfl directory
    · exact Path.resolve_append rfl directory
  · have parts : ofText name = ⟨[], [name]⟩ :=
      ofText_join (List.cons_ne_nil name []) (List.forall_mem_singleton.mpr (fine turn))
    rw [parts, Path.resolve_append rfl, Location.enter_of_not_dots turn]
    exact Location.foldl_step (List.forall_mem_singleton.mpr (fine turn).notAbove) _

theorem targetDirectory_resolve {output : Path} {sources : List Location} {source : Location}
    (several : 1 < sources.length) (proper : source.IsProper) (below : source ≠ [])
    (directory : Location) :
    (targetDirectory output sources source).resolve directory =
      (output.resolve directory).enter source.stem := by
  rw [targetDirectory, if_neg several.ne']
  exact Path.resolve_append_ofText (source.stem_isFileName proper below) output directory

namespace Registry

/-- Only one backend is known to begin with. -/
theorem get_standard {name : Text} {backend : Backend} (found : standard.get name = .ok backend) :
    backend = Vue.backend := by
  have known : standard = [("vue".toList, Vue.backend)] := rfl
  unfold get find? at found
  rw [known, List.lookup_cons, List.lookup_nil] at found
  split at found
  · rename_i here
    split at here
    · cases here
      cases found
      rfl
    · cases here
  · cases found

theorem select_succeeds {stack : TomlValue} {backend : Backend} {before after : Progress}
    (done : Succeeds (standard.select stack) before backend after) :
    backend = Vue.backend ∧ after = before := by
  unfold select at done
  split at done
  · obtain ⟨found, rfl⟩ := Work.ofExcept_succeeds done
    exact ⟨get_standard found, rfl⟩
  · exact absurd done Succeeds.not_throw
  · exact absurd done Succeeds.not_throw
  · obtain ⟨_, _, _, failed⟩ := Succeeds.bind_iff.mp done
    exact absurd failed Succeeds.not_throw

end Registry

/-- A build that ends well has built the sources of its manifest. -/
theorem buildCommand_builds {setting : Setting} {argument name : Text}
    {stack? output? : Option Text} {before found after : Session} {path : Path}
    {manifest : Manifest} {sources : List Location}
    (proper : before.files.IsProper) (folder : setting.directory.IsProper)
    (discovered : Succeeds (Interaction.manifestSources setting argument) before
      (path, manifest, sources) found)
    (output : optionOr output? manifest.output = .text name)
    (done : Succeeds (buildCommand setting argument stack? output?) before () after) :
    ∃ generations, generations.map Prod.fst = sources ∧
      FileTree.Builds setting.directory
        (targetDirectory (path.parent.append (.ofText name)) sources) before.files generations
        after.files := by
  obtain ⟨result, middle, searched, afterSearch⟩ := Succeeds.bind_iff.mp done
  -- the search runs the same way inside the command
  have same := discovered.symm.trans searched
  cases same
  obtain ⟨files, _⟩ := Interaction.manifestSources_succeeds proper folder discovered
  dsimp only at afterSearch
  rw [output] at afterSearch
  obtain ⟨backend, chosen, selects, afterSelect⟩ := Succeeds.bind_iff.mp afterSearch
  obtain ⟨progress, selected, files'⟩ := Interaction.require_succeeds selects
  obtain ⟨rfl, rfl⟩ := Registry.select_succeeds selected
  obtain ⟨total, built, builds, afterBuild⟩ := Succeeds.bind_iff.mp afterSelect
  obtain ⟨_, shown, shows, afterShow⟩ := Succeeds.bind_iff.mp afterBuild
  obtain ⟨last, checked, files''⟩ := Interaction.require_succeeds shows
  obtain ⟨_, _, first, second⟩ := Succeeds.bind_iff.mp checked
  obtain rfl := Work.checkShowable_succeeds first
  obtain rfl := Work.checkShowable_succeeds second
  obtain ⟨generations, firsts, trace⟩ := buildSources_builds builds
  rw [files', files] at trace
  rw [Interaction.print_succeeds afterShow, files'']
  exact ⟨generations, firsts, trace⟩

/-- Where there are several sources, two of them are built into one folder exactly if their names
without endings meet there. A build that ends well leaves every artifact of every source exactly if
sources that are built into one folder agree on the artifacts that have the same path. -/
theorem buildCommand_subdirectories {setting : Setting} {argument name : Text}
    {output? : Option Text} {before found : Session} {path : Path}
    {manifest : Manifest} {sources : List Location}
    (proper : before.files.IsProper) (folder : setting.directory.IsProper)
    (discovered : Succeeds (Interaction.manifestSources setting argument) before
      (path, manifest, sources) found)
    (output : optionOr output? manifest.output = .text name) (several : 1 < sources.length) :
    let base := path.parent.append (.ofText name)
    let root := base.resolve setting.directory
    let target source := (targetDirectory base sources source).resolve setting.directory
    (∀ source ∈ sources, ∀ other ∈ sources,
      (target source = target other ↔ root.Meet source.stem other.stem)) ∧
    ∀ stack? after, Succeeds (buildCommand setting argument stack? output?) before () after →
      ∃ generations, generations.map Prod.fst = sources ∧
        FileTree.Builds setting.directory (targetDirectory base sources) before.files generations
          after.files ∧
        ((∀ generation ∈ generations, ∀ artifact ∈ Vue.artifacts generation.2,
            after.files.node? (artifact.target (target generation.1)) =
              some (.file (Utf8.encode artifact.content))) ↔
          ∀ generation ∈ generations, ∀ other ∈ generations,
            root.Meet generation.1.stem other.1.stem →
              ∀ artifact ∈ Vue.artifacts generation.2, ∀ counterpart ∈ Vue.artifacts other.2,
                artifact.path = counterpart.path → artifact.content = counterpart.content) := by
  intro base root target
  obtain ⟨_, named⟩ := Interaction.manifestSources_succeeds proper folder discovered
  have shared : ∀ source ∈ sources, ∀ other ∈ sources,
      (target source = target other ↔ root.Meet source.stem other.stem) := by
    intro source member other otherMember
    obtain ⟨place, below⟩ := named source member
    obtain ⟨place', below'⟩ := named other otherMember
    rw [← Location.enter_inj, ← targetDirectory_resolve several place below,
      ← targetDirectory_resolve several place' below']
  refine ⟨shared, fun stack? after done => ?_⟩
  obtain ⟨generations, rfl, built⟩ := buildCommand_builds proper folder discovered output done
  refine ⟨generations, rfl, built, built.all_iff.trans ?_⟩
  have among (generation : Location × Document) (member : generation ∈ generations) :
      generation.1 ∈ generations.map Prod.fst := List.mem_map_of_mem member
  constructor
  · intro agree generation member other otherMember meet
    exact agree generation member other otherMember
      ((shared _ (among generation member) _ (among other otherMember)).mpr meet)
  · intro agree generation member other otherMember same
    exact agree generation member other otherMember
      ((shared _ (among generation member) _ (among other otherMember)).mp same)

/-- Two sources of given names in two folders. -/
def twoSources (name other : Text) : List Location :=
  [["a", name], ["b", other]]

/-- A project with these sources, which declare different interfaces of one name. -/
def twoSourceProject (name other : Text) : Session where
  files :=
    [(["apml.toml"], .file (Utf8.encode
        ("[sources]\npaths = [\"a/".toList ++ name ++ "\", \"b/" ++ other ++ "\"]\n"))),
      (["a"], .folder), (["a", name], .file (Utf8.encode "interface Home:\n")),
      (["b"], .folder), (["b", other], .file (Utf8.encode "interface Home:\n  show card:\n"))]
  output := []
  diagnostics := []

theorem buildCommand_subdirectories_apart :
    let setting : Setting := ⟨[], false⟩
    let before := twoSourceProject "x.apml" "y.apml"
    let sources := twoSources "x.apml" "y.apml"
    ∃ path manifest found after,
      Succeeds (Interaction.manifestSources setting "apml.toml") before (path, manifest, sources)
        found ∧
      Succeeds (buildCommand setting "apml.toml" none (some "out".toList)) before () after ∧
      (∀ source ∈ sources, ∀ other ∈ sources,
        (targetDirectory (path.parent.append (.ofText "out")) sources source).resolve [] =
          (targetDirectory (path.parent.append (.ofText "out")) sources other).resolve [] →
        source = other) ∧
      ∃ generations, generations.map Prod.fst = sources ∧
        FileTree.Builds [] (targetDirectory (path.parent.append (.ofText "out")) sources)
          before.files generations after.files := by
  intro setting before sources
  obtain ⟨⟨path, manifest, _⟩, found, discovered, known⟩ :=
    Succeeds.exists_of_run (Interaction.manifestSources setting "apml.toml") before
      (fun value _ => value.2.2 = sources) (by decide +kernel)
  obtain ⟨_, after, built, _⟩ := Succeeds.exists_of_run
    (buildCommand setting "apml.toml" none (some "out".toList)) before (fun _ _ => true)
    (by decide +kernel)
  obtain rfl := of_decide_eq_true known
  have output : optionOr (some "out".toList) manifest.output = .text "out".toList := rfl
  obtain ⟨shared, complete⟩ := buildCommand_subdirectories (by decide) (by decide) discovered
    output (by decide)
  obtain ⟨generations, firsts, trace, _⟩ := complete none after built
  refine ⟨path, manifest, found, after, discovered, built, ?_, generations, firsts, trace⟩
  have apart : ∀ source ∈ sources, source.stem ∉ Location.dots ∧
      ∀ other ∈ sources, source.stem = other.stem → source = other := by decide
  intro source member other otherMember same
  rcases (shared source member other otherMember).mp same with stems | ⟨_, turn, _⟩
  · exact (apart source member).2 other otherMember stems
  · exact absurd turn (apart source member).1

/-- Two sources of one name are built into one folder, and the component of the first is lost. -/
theorem buildCommand_overwrites :
    let setting : Setting := ⟨[], false⟩
    let before := twoSourceProject "x.apml" "x.apml"
    let sources := twoSources "x.apml" "x.apml"
    ∃ path manifest found after document,
      Succeeds (Interaction.manifestSources setting "apml.toml") before (path, manifest, sources)
        found ∧ sources.Nodup ∧
      Succeeds (buildCommand setting "apml.toml" none (some "out".toList)) before () after ∧
      let target source :=
        (targetDirectory (path.parent.append (.ofText "out")) sources source).resolve []
      (∀ source ∈ sources, ∀ other ∈ sources, target source = target other) ∧
      before.files.Declares [] (.ofLocation ["a", "x.apml"]) document ∧
      ∃ artifact ∈ Vue.artifacts document,
        after.files.node? (artifact.target (target ["a", "x.apml"])) ≠
          some (.file (Utf8.encode artifact.content)) := by
  intro setting before sources
  obtain ⟨⟨path, manifest, _⟩, found, discovered, known⟩ :=
    Succeeds.exists_of_run (Interaction.manifestSources setting "apml.toml") before
      (fun value _ => value.1 = .ofLocation ["apml.toml"] ∧ value.2.2 = sources)
      (by decide +kernel)
  obtain ⟨rfl, rfl⟩ := of_decide_eq_true known
  have faultless : (Outline.ofSource "interface Home:\n").fault? = none := by decide +kernel
  have parsed := Document.parse_eq_ok.mpr ⟨faultless, rfl⟩
  obtain ⟨_, after, built, lost⟩ := Succeeds.exists_of_run
    (buildCommand setting "apml.toml" none (some "out".toList)) before
    (fun _ after => ∃ artifact ∈ Vue.artifacts
        (Document.ofDeclarations (Outline.ofSource "interface Home:\n").declarations),
      after.files.node? (artifact.target ["out", "x"]) ≠
        some (.file (Utf8.encode artifact.content)))
    (by decide +kernel)
  refine ⟨_, manifest, found, after, _, discovered, by decide, built, ?shared,
    ⟨_, "interface Home:\n", rfl, by decide +kernel, parsed⟩, ?lost⟩
  case shared => decide +kernel
  case lost => exact of_decide_eq_true lost

end AppDescription
