import Mathlib.Data.List.DropRight
import AppDescription.Proofs.ArtifactLines

namespace AppDescription

/-- The module that a line of a script imports: what it has between its first two quotes. -/
def importedModule? (line : Text) : Option Text :=
  if "import ".toList.isPrefixOf line then (Text.splitOn '\'' line)[1]? else none

/-- The line that opens the script block of a page. -/
def scriptOpening : Text :=
  "<script setup lang=\"ts\">"

/-- The line that closes the script block of a page. -/
def scriptEnding : Text :=
  "</script>"

/-- The lines in the last script block of a page. -/
def scriptBlock (lines : List Text) : List Text :=
  (lines.rtakeWhile fun line => line ≠ scriptOpening).takeWhile fun line => line ≠ scriptEnding

namespace Artifact

/-- The lines of an artifact that are script. Of a component that is a part only. -/
def script (artifact : Artifact) : List Text :=
  let lines := Text.splitOn '\n' artifact.content
  if Text.endsWith artifact.path ".vue" then scriptBlock lines else lines

/-- The modules that an artifact imports by a path from where it lies. -/
def relativeImports (artifact : Artifact) : List Text :=
  (artifact.script.filterMap importedModule?).filter fun specifier => specifier.head? = some '.'

theorem ofLines_script {path : Text} (plain : Text.endsWith path ".vue" = false)
    {lines : List Text} (nonempty : lines ≠ []) :
    (ofLines path lines).script = lines.flatMap (Text.splitOn '\n') := by
  simp only [script, ofLines, plain, Bool.false_eq_true, if_false]
  exact Text.splitOn_join_eq '\n' nonempty

theorem ofLines_scriptBlock {path : Text} (page : Text.endsWith path ".vue" = true)
    {lines : List Text} (nonempty : lines ≠ []) :
    (ofLines path lines).script = scriptBlock (lines.flatMap (Text.splitOn '\n')) := by
  simp only [script, ofLines, page, if_true]
  rw [Text.splitOn_join_eq '\n' nonempty]

end Artifact

/-- Text in which every line is something else than an import. -/
def Importless (text : Text) : Prop :=
  ∀ line ∈ Text.splitOn '\n' text, importedModule? line = none

instance decidableImportless (text : Text) : Decidable (Importless text) :=
  inferInstanceAs (Decidable (∀ line ∈ _, _))

theorem importedModule?_eq_none {line : Text} (start : line.head? ≠ some 'i') :
    importedModule? line = none := by
  cases line with
  | nil => rfl
  | cons c rest =>
    have other : 'i' ≠ c := fun same => start (same ▸ rfl)
    refine if_neg ?_
    simp [other]

theorem importless_of_unbroken {text : Text} (unbroken : '\n' ∉ text)
    (start : text.head? ≠ some 'i') : Importless text := by
  intro line among
  rw [Text.splitOn_eq unbroken, List.mem_singleton] at among
  exact among ▸ importedModule?_eq_none start

theorem importedModules_eq_nil {texts : List Text} (all : ∀ text ∈ texts, Importless text) :
    (texts.flatMap (Text.splitOn '\n')).filterMap importedModule? = [] := by
  rw [List.filterMap_eq_nil_iff]
  intro line among
  obtain ⟨text, member, inText⟩ := List.mem_flatMap.mp among
  exact all text member line inText

/-- Indented text holds no imports, since every line of it starts with a space or is empty. -/
theorem indentBy_importless (count : Nat) (text : Text) :
    Importless (Text.indentBy (count + 1) text) := by
  intro line among
  apply importedModule?_eq_none
  rcases Text.mem_splitOn_indentBy among with rfl | ⟨rest, rfl⟩
  · simp
  · simp [List.replicate_succ]

theorem importless_append {start rest : Text} (filled : start ≠ [])
    (other : start.head? ≠ some 'i') (unbroken : '\n' ∉ start ++ rest) :
    Importless (start ++ rest) := by
  refine importless_of_unbroken unbroken ?_
  rwa [List.head?_append_of_ne_nil _ filled]

namespace Vue

/-- A declaration of a model imports nothing. -/
theorem modelLines_importless {model : DataModel} (named : model.name.IsName)
    (fields : ∀ field ∈ model.fields, field.IsNamed) :
    ∀ line ∈ modelLines model, Importless line := by
  have opening : Importless ("export interface " ++ model.name ++ [' ', '{']) := by
    rw [List.append_assoc]
    exact importless_append (by decide) (by decide)
      (List.not_mem_append (by decide) (List.not_mem_append (named.free (by decide)) (by decide)))
  have member : ∀ line ∈ model.fields.map memberLine, Importless line := by
    intro line among
    obtain ⟨field, inModel, rfl⟩ := List.mem_map.mp among
    have unbroken := memberLine_unbroken (fields field inModel)
    simp only [memberLine, List.append_assoc] at unbroken ⊢
    exact importless_append (by decide) (by decide) unbroken
  have closing : ∀ line ∈ closingLines, Importless line := by decide
  exact List.forall_mem_cons.mpr ⟨opening, List.forall_mem_append.mpr ⟨member, closing⟩⟩

theorem modelsArtifact?_relativeImports {document : Document} (named : document.IsNamed)
    {artifact : Artifact} (found : modelsArtifact? document.data = some artifact) :
    artifact.relativeImports = [] := by
  obtain ⟨_, rfl⟩ := modelsArtifact?_eq_some.mp found
  have header : ∀ line ∈ modelsHeader, Importless line := by decide +kernel
  have models : ∀ line ∈ document.data.flatMap modelLines, Importless line := by
    intro line among
    obtain ⟨model, member, inModel⟩ := List.mem_flatMap.mp among
    exact modelLines_importless (named.models model member) (named.fields model member) line inModel
  rw [Artifact.relativeImports, Artifact.ofLines_script (by decide) (by simp [modelsHeader]),
    importedModules_eq_nil (List.forall_mem_append.mpr ⟨header, models⟩), List.filter_nil]

theorem collectionLine_importless {model : DataModel} (named : model.name.IsName) :
    Importless (collectionLine model) := by
  have whole := collectionLine_unbroken named
  unfold collectionLine at whole ⊢
  rw [List.append_assoc, List.append_assoc, List.append_assoc] at whole ⊢
  exact importless_append (by decide) (by decide) whole

/-- What a computed value is made of is indented, so it imports nothing. -/
theorem computedLines_importless {value : ComputedValue} (named : value.name.IsName) :
    ∀ line ∈ computedLines value, Importless line := by
  have opening : Importless ("  const " ++ value.name ++ " = computed(() => " ++ ['{']) := by
    rw [List.append_assoc, List.append_assoc]
    exact importless_append (by decide) (by decide)
      (List.not_mem_append (by decide) (List.not_mem_append (named.free (by decide)) (by decide)))
  have body := indentBy_importless 3 (computedBody value.source?)
  exact List.forall_mem_cons.mpr ⟨opening, List.forall_mem_cons.mpr ⟨body, by decide⟩⟩

theorem exportLine_importless {name : Text} (unbroken : '\n' ∉ name) :
    Importless (exportLine name) := by
  have whole := exportLine_unbroken unbroken
  unfold exportLine at whole ⊢
  rw [List.append_assoc] at whole ⊢
  exact importless_append (by decide) (by decide) whole

/-- The store below its imports. -/
def storeBody (document : Document) : List Text :=
  storeHeader ++ document.data.map collectionLine ++ computedHeader ++
    document.computed.flatMap computedLines ++ storeReturn ++
    (storeNames document.data document.computed).map exportLine ++ storeClosing

theorem storeBody_importless {document : Document} (named : document.IsNamed) :
    ∀ line ∈ storeBody document, Importless line := by
  have header : ∀ line ∈ storeHeader, Importless line := by decide +kernel
  have computedHeader : ∀ line ∈ computedHeader, Importless line := by decide
  have opening : ∀ line ∈ storeReturn, Importless line := by decide
  have closing : ∀ line ∈ storeClosing, Importless line := by decide
  simp only [storeBody, List.forall_mem_append]
  refine ⟨⟨⟨⟨⟨⟨header, ?_⟩, computedHeader⟩, ?_⟩, opening⟩, ?_⟩, closing⟩
  · intro line among
    obtain ⟨model, member, rfl⟩ := List.mem_map.mp among
    exact collectionLine_importless (named.models model member)
  · intro line among
    obtain ⟨value, member, inValue⟩ := List.mem_flatMap.mp among
    exact computedLines_importless (named.computed value member) line inValue
  · intro line among
    obtain ⟨name, member, rfl⟩ := List.mem_map.mp among
    exact exportLine_importless (storeNames_free named (by decide) name member)

/-- The names that the store takes from the models hold neither line breaks nor quotes. -/
theorem modelNames_free {document : Document} (named : document.IsNamed) {c : Char}
    (early : c.toNat < 48) (other : c ∉ ", ".toList) :
    c ∉ Text.join ", " (document.data.map DataModel.name) := by
  intro inside
  obtain between | ⟨name, among, within⟩ := Text.mem_join inside
  · exact other between
  · obtain ⟨model, member, rfl⟩ := List.mem_map.mp among
    exact (named.models model member).free early within

theorem bracedNames_free {document : Document} (named : document.IsNamed) {c : Char}
    (early : c.toNat < 48) (other : c ∉ ", ".toList) :
    c ∉ Text.braced (" " ++ Text.join ", " (document.data.map DataModel.name) ++ " ") := by
  have space : c ∉ " ".toList := by
    intro among
    exact other (List.mem_cons_of_mem ',' among)
  have inner := List.not_mem_append (List.not_mem_append space (modelNames_free named early other)) space
  refine Text.not_mem_braced inner ?_ ?_
  · rintro rfl
    exact absurd early (by decide)
  · rintro rfl
    exact absurd early (by decide)

theorem modelImport_unbroken {document : Document} (named : document.IsNamed) :
    '\n' ∉ modelImport document.data :=
  List.not_mem_append
    (List.not_mem_append (by decide) (bracedNames_free named (by decide) (by decide))) (by decide)

theorem modelImport_module {document : Document} (named : document.IsNamed) :
    importedModule? (modelImport document.data) = some "../types/models".toList := by
  have ending : " from '../types/models';".toList =
      " from ".toList ++ '\'' :: "../types/models';".toList := by decide
  have quoteless : '\'' ∉ "import type ".toList ++
      (Text.braced (" " ++ Text.join ", " (document.data.map DataModel.name) ++ " ") ++ " from ") :=
    List.not_mem_append (by decide)
      (List.not_mem_append (bracedNames_free named (by decide) (by decide)) (by decide))
  have start : "import ".toList <+: "import type ".toList := by decide
  have starts : "import ".toList <+: modelImport document.data := by
    unfold modelImport
    rw [List.append_assoc]
    exact start.trans (List.prefix_append _ _)
  have cut : modelImport document.data = "import type ".toList ++
      (Text.braced (" " ++ Text.join ", " (document.data.map DataModel.name) ++ " ") ++ " from ") ++
        '\'' :: "../types/models';".toList := by
    unfold modelImport
    rw [ending, ← List.append_assoc "import type ".toList, List.append_assoc _ " from ".toList]
  unfold importedModule?
  rw [if_pos (List.isPrefixOf_iff_prefix.mpr starts), cut, Text.splitOn_append,
    Text.splitOn_eq quoteless]
  rfl

theorem storeImports_unbroken {document : Document} (named : document.IsNamed) :
    ∀ line ∈ storeImports document.data, '\n' ∉ line := by
  refine List.forall_mem_cons.mpr ⟨by decide, List.forall_mem_cons.mpr ⟨by decide, ?_⟩⟩
  split
  · exact List.forall_mem_nil _
  · exact List.forall_mem_singleton.mpr (modelImport_unbroken named)

theorem storeImports_relative {document : Document} (named : document.IsNamed) :
    (((storeImports document.data).filterMap importedModule?).filter fun specifier =>
        specifier.head? = some '.') =
      if document.data = [] then [] else ["../types/models".toList] := by
  unfold storeImports
  by_cases none : document.data = []
  · rw [if_pos none, none]
    decide
  · rw [if_neg none, if_neg (List.isEmpty_iff.not.mpr none), List.filterMap_cons,
      List.filterMap_cons, List.filterMap_cons, modelImport_module named]
    decide

/-- The store takes the types of the models, when there are models. -/
theorem storeArtifact?_relativeImports {document : Document} (named : document.IsNamed)
    {artifact : Artifact} (found : storeArtifact? document.data document.computed = some artifact) :
    artifact.relativeImports = if document.data = [] then [] else ["../types/models".toList] := by
  obtain ⟨_, rfl⟩ := storeArtifact?_eq_some.mp found
  have lines : storeLines document.data document.computed =
      storeImports document.data ++ storeBody document := by
    simp only [storeLines, storeBody, List.append_assoc]
  rw [Artifact.relativeImports, lines, Artifact.ofLines_script (by decide) (by simp [storeImports]),
    List.flatMap_append, List.filterMap_append, importedModules_eq_nil (storeBody_importless named),
    Text.flatMap_splitOn (storeImports_unbroken named), List.append_nil,
    storeImports_relative named]

theorem scriptBlock_append {before inside after : List Text} (within : scriptOpening ∉ inside)
    (closed : scriptEnding ∉ inside) (past : scriptOpening ∉ after) :
    scriptBlock (before ++ scriptOpening :: (inside ++ scriptEnding :: after)) = inside := by
  have later : ∀ line ∈ (inside ++ scriptEnding :: after).reverse,
      decide (line ≠ scriptOpening) = true := by
    have ending : scriptOpening ≠ scriptEnding := by decide
    intro line among
    rw [List.mem_reverse] at among
    refine decide_eq_true ?_
    rintro rfl
    rcases List.mem_append.mp among with inInside | rest
    · exact within inInside
    · rcases List.mem_cons.mp rest with same | inAfter
      · exact ending same
      · exact past inAfter
  have inner : ∀ line ∈ inside, decide (line ≠ scriptEnding) = true := by
    intro line among
    refine decide_eq_true ?_
    rintro rfl
    exact closed among
  rw [scriptBlock, List.rtakeWhile, List.reverse_append, List.reverse_cons, List.append_assoc,
    Stops.takeWhile_append later (by simp), List.reverse_reverse,
    Stops.takeWhile_append inner (by simp)]

/-- What is between the first and the last line of a script block. -/
def scriptInside (computed : List ComputedValue) : List Text :=
  scriptHeader.tail ++ computedHints computed

theorem scriptLines_eq (computed : List ComputedValue) :
    scriptLines computed = scriptOpening :: (scriptInside computed ++ [scriptEnding, []]) := by
  simp only [scriptLines, scriptInside, List.append_assoc]
  rfl

theorem computedHint_unbroken {value : ComputedValue} (named : value.name.IsName) :
    '\n' ∉ computedHint value := by
  unfold computedHint
  rw [List.append_assoc, List.append_assoc, List.append_assoc]
  exact List.not_mem_append (by decide) (List.not_mem_append (named.free (by decide))
    (List.not_mem_append (by decide) (List.not_mem_append (named.free (by decide)) (by decide))))

theorem computedHints_cases {computed : List ComputedValue} {line : Text}
    (among : line ∈ computedHints computed) :
    line = "// Computed properties from store" ∨ line = [] ∨
      ∃ value ∈ computed, computedHint value = line := by
  unfold computedHints at among
  split at among
  · cases among
  · rcases List.mem_cons.mp among with first | later
    · exact .inl first
    · rcases List.mem_append.mp later with hint | last
      · exact .inr (.inr (List.mem_map.mp hint))
      · exact .inr (.inl (List.mem_singleton.mp last))

theorem computedHint_head (value : ComputedValue) : (computedHint value).head? = some '/' := by
  unfold computedHint
  rw [List.append_assoc, List.append_assoc, List.append_assoc,
    List.head?_append_of_ne_nil _ (by decide)]
  decide

/-- The hints at computed values are comments. -/
theorem computedHints_head {computed : List ComputedValue} :
    ∀ line ∈ computedHints computed, line.head? = none ∨ line.head? = some '/' := by
  intro line among
  rcases computedHints_cases among with rfl | rfl | ⟨value, _, rfl⟩
  · exact .inr (by decide)
  · exact .inl rfl
  · exact .inr (computedHint_head value)

theorem computedHints_unbroken {document : Document} (named : document.IsNamed) :
    ∀ line ∈ computedHints document.computed, '\n' ∉ line := by
  intro line among
  rcases computedHints_cases among with rfl | rfl | ⟨value, member, rfl⟩
  · decide
  · decide
  · exact computedHint_unbroken (named.computed value member)

theorem scriptInside_unbroken {document : Document} (named : document.IsNamed) :
    ∀ line ∈ scriptInside document.computed, '\n' ∉ line := by
  have header : ∀ line ∈ scriptHeader.tail, '\n' ∉ line := by decide
  exact List.forall_mem_append.mpr ⟨header, computedHints_unbroken named⟩

theorem scriptInside_free {computed : List ComputedValue} {line : Text}
    (elsewhere : line ∉ scriptHeader.tail) (start : line.head? = some '<') :
    line ∉ scriptInside computed := by
  refine List.not_mem_append elsewhere fun among => ?_
  rcases computedHints_head line among with empty | comment
  · rw [empty] at start
    cases start
  · rw [comment] at start
    exact absurd start (by decide)

theorem styleLines_unbroken {interface : Interface} (named : interface.name.IsName) :
    ∀ line ∈ styleLines interface, '\n' ∉ line := by
  have rule : '\n' ∉ "." ++ kebabCase interface.name ++ [' ', '{'] :=
    List.not_mem_append (List.not_mem_append (by decide) (kebabCase_free named (by decide))) (by decide)
  exact List.forall_mem_cons.mpr ⟨by decide, List.forall_mem_cons.mpr ⟨rule, by decide⟩⟩

theorem styleLines_free (interface : Interface) : scriptOpening ∉ styleLines interface := by
  have rule : scriptOpening ≠ "." ++ kebabCase interface.name ++ [' ', '{'] := by
    intro same
    have first := congrArg List.head? same
    rw [List.append_assoc, List.head?_append_of_ne_nil _ (by decide)] at first
    exact absurd first (by decide)
  refine List.not_mem_cons_of_ne_of_not_mem (by decide)
    (List.not_mem_cons_of_ne_of_not_mem rule (by decide))

theorem componentPath_isPage (interface : Interface) :
    Text.endsWith (componentPath interface) ".vue" = true :=
  List.isSuffixOf_iff_suffix.mpr (List.suffix_append _ _)

/-- The script of a component is found whatever is on its page. -/
theorem componentArtifact_script {document : Document} (named : document.IsNamed)
    {interface : Interface} (member : interface ∈ document.interfaces) :
    (componentArtifact document.computed interface).script = scriptInside document.computed := by
  have styles := styleLines_unbroken (named.interfaces interface member)
  have block : ∀ line ∈ scriptLines document.computed, '\n' ∉ line := by
    rw [scriptLines_eq]
    exact List.forall_mem_cons.mpr
      ⟨by decide, List.forall_mem_append.mpr ⟨scriptInside_unbroken named, by decide⟩⟩
  have past : scriptOpening ∉ [] :: styleLines interface :=
    List.not_mem_cons_of_ne_of_not_mem (by decide) (styleLines_free interface)
  rw [componentArtifact, Artifact.ofLines_scriptBlock (componentPath_isPage interface)
      (by simp [styleLines]), List.flatMap_append, List.flatMap_append, Text.flatMap_splitOn block,
    Text.flatMap_splitOn styles, scriptLines_eq, List.append_assoc, List.cons_append,
    List.append_assoc]
  exact scriptBlock_append (scriptInside_free (by decide) (by decide))
    (scriptInside_free (by decide) (by decide)) past

/-- A component always takes the store. -/
theorem componentArtifact_relativeImports {document : Document} (named : document.IsNamed)
    {interface : Interface} (member : interface ∈ document.interfaces) :
    (componentArtifact document.computed interface).relativeImports = ["../stores/app".toList] := by
  have hints : (computedHints document.computed).filterMap importedModule? = [] := by
    rw [List.filterMap_eq_nil_iff]
    intro line among
    apply importedModule?_eq_none
    rcases computedHints_head line among with head | head <;> rw [head] <;> decide
  rw [Artifact.relativeImports, componentArtifact_script named member, scriptInside,
    List.filterMap_append, hints, List.append_nil]
  decide

end Vue

end AppDescription
