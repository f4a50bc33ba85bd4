import AppDescription.Proofs.DistinctPaths
import AppDescription.Proofs.Imports

namespace AppDescription

/-- The name that a line declares, if it is one at the top of the setup of a store. -/
def declaredName? (line : Text) : Option Text :=
  (Text.dropPrefix? "  const " line).map fun rest => rest.takeWhile (· ≠ ' ')

/-- The line of a store above the keys of the object that it returns. -/
def returnOpening : Text :=
  "  return " ++ ['{']

/-- The line of a store below these keys. -/
def returnEnding : Text :=
  "  " ++ ['}', ';']

namespace Artifact

/-- The names declared at the top of the setup of a store. -/
def declaredNames (store : Artifact) : List Text :=
  (Text.splitOn '\n' store.content).filterMap declaredName?

/-- The keys of the object that a store returns. -/
def returnedKeys (store : Artifact) : List Text :=
  ((((Text.splitOn '\n' store.content).dropWhile (· ≠ returnOpening)).tail).takeWhile
    (· ≠ returnEnding)).map fun line => (line.drop 4).takeWhile (· ≠ ',')

end Artifact

/-- The third character of a line, which tells what a line of a store is for. -/
def Text.third? (text : Text) : Option Char :=
  text[2]?

theorem Text.third?_append {start : Text} (long : 2 < start.length) (rest : Text) :
    third? (start ++ rest) = third? start :=
  List.getElem?_append_left long

theorem declaredName?_eq_none {line : Text} (other : line.third? ≠ some 'c') :
    declaredName? line = none := by
  unfold declaredName?
  rw [Option.map_eq_none_iff]
  by_contra starts
  obtain ⟨rest, found⟩ := Option.ne_none_iff_exists'.mp starts
  rw [Text.dropPrefix?_eq_some found, Text.third?_append (by decide)] at other
  exact other (by decide)

theorem declaredName?_eq_some {name rest : Text} (free : ' ' ∉ name) :
    declaredName? ("  const " ++ (name ++ ' ' :: rest)) = some name := by
  have solid : ∀ c ∈ name, decide (c ≠ ' ') = true :=
    fun c member => decide_eq_true fun same => free (same ▸ member)
  have stops : Stops (fun c => decide (c ≠ ' ')) (' ' :: rest) := by simp
  rw [declaredName?, Text.dropPrefix?_append, Option.map_some, stops.takeWhile_append solid]

/-- Indented lines are no lines of the setup itself. -/
theorem Text.splitOn_indentBy_third (text : Text) {c : Char} (solid : c ≠ ' ') :
    ∀ line ∈ splitOn '\n' (indentBy 4 text), line.third? ≠ some c := by
  intro line among
  rcases mem_splitOn_indentBy among with rfl | ⟨rest, rfl⟩
  · simp [third?]
  · simpa [third?, List.replicate_succ] using Ne.symm solid

namespace Vue

variable {document : Document}

/-- The lines of a store above the object that it returns. -/
def setupLines (models : List DataModel) (computed : List ComputedValue) : List Text :=
  storeImports models ++ storeHeader ++ models.map collectionLine ++ computedHeader ++
    computed.flatMap fun value => (computedLines value).flatMap (Text.splitOn '\n')

/-- The fixed lines above the returned object neither declare a name nor open the object. -/
theorem storeHeader_plain : ∀ line ∈ storeHeader ++ computedHeader,
    '\n' ∉ line ∧ line.third? ≠ some 'c' ∧ line.third? ≠ some 'r' := by decide +kernel

theorem storeImports_third (models : List DataModel) :
    ∀ line ∈ storeImports models, line.third? = some 'p' := by
  have start : Text.third? "import type " = some 'p' := by decide
  have types : Text.third? (modelImport models) = some 'p' := by
    unfold modelImport
    rwa [List.append_assoc, Text.third?_append (by decide)]
  refine List.forall_mem_cons.mpr ⟨by decide, List.forall_mem_cons.mpr ⟨by decide, ?_⟩⟩
  split
  · exact List.forall_mem_nil _
  · exact List.forall_mem_singleton.mpr types

theorem computedLines_split {value : ComputedValue} (named : value.name.IsName) :
    (computedLines value).flatMap (Text.splitOn '\n') =
      ("  const " ++ (value.name ++ ' ' :: ("= computed(() => " ++ ['{']))) ::
        (Text.splitOn '\n' (Text.indentBy 4 (computedBody value.source?)) ++ [computedEnding, []]) := by
  have opening : "  const " ++ value.name ++ " = computed(() => " ++ ['{'] =
      "  const " ++ (value.name ++ ' ' :: ("= computed(() => " ++ ['{'])) := by
    have space : " = computed(() => ".toList = ' ' :: "= computed(() => ".toList := by decide
    rw [space, List.append_assoc, List.append_assoc, List.cons_append]
  have unbroken : '\n' ∉ "  const " ++ (value.name ++ ' ' :: ("= computed(() => " ++ ['{'])) :=
    List.not_mem_append (by decide)
      (List.not_mem_append (named.free (by decide)) (by decide))
  have closing : Text.splitOn '\n' computedEnding = [computedEnding] := by decide
  unfold computedLines
  rw [List.flatMap_cons, List.flatMap_cons, List.flatMap_cons, List.flatMap_singleton, opening,
    Text.splitOn_eq unbroken, closing]
  rfl

theorem collectionLine_eq (model : DataModel) : collectionLine model =
    "  const " ++ (collectionName model.name ++ ' ' :: ("= ref<" ++ model.name ++ "[]>([]);")) := by
  have space : " = ref<".toList = ' ' :: "= ref<".toList := by decide
  unfold collectionLine
  rw [space]
  simp only [List.append_assoc, List.cons_append]

/-- Above its object a store declares its names one by one. -/
theorem setupLines_declared (named : document.IsNamed) :
    (setupLines document.data document.computed).filterMap declaredName? =
      storeNames document.data document.computed := by
  have imports : (storeImports document.data).filterMap declaredName? = [] := by
    refine List.filterMap_eq_nil_iff.mpr fun line among => declaredName?_eq_none ?_
    rw [storeImports_third _ line among]
    decide
  have plain := List.forall_mem_append.mp storeHeader_plain
  have header : storeHeader.filterMap declaredName? = [] :=
    List.filterMap_eq_nil_iff.mpr fun line among => declaredName?_eq_none (plain.1 line among).2.1
  have computedHeader : computedHeader.filterMap declaredName? = [] :=
    List.filterMap_eq_nil_iff.mpr fun line among => declaredName?_eq_none (plain.2 line among).2.1
  have collections : (document.data.map collectionLine).filterMap declaredName? =
      document.data.map fun model => collectionName model.name := by
    rw [List.filterMap_map, ← List.filterMap_eq_map]
    refine List.filterMap_congr fun model member => ?_
    have free := collectionName_free (named.models model member) (by decide : ' '.toNat < 48)
    rw [Function.comp_apply, collectionLine_eq, declaredName?_eq_some free]
    rfl
  have values : (document.computed.flatMap fun value =>
      (computedLines value).flatMap (Text.splitOn '\n')).filterMap declaredName? =
      document.computed.map ComputedValue.name := by
    rw [List.filterMap_flatMap, List.map_eq_flatMap]
    refine List.flatMap_congr fun value member => ?_
    have free : ' ' ∉ value.name := (named.computed value member).free (by decide)
    have body : (Text.splitOn '\n' (Text.indentBy 4 (computedBody value.source?))).filterMap
        declaredName? = [] := by
      refine List.filterMap_eq_nil_iff.mpr fun line among => declaredName?_eq_none ?_
      exact Text.splitOn_indentBy_third _ (by decide) line among
    have closing : [computedEnding, []].filterMap declaredName? = [] := by decide
    rw [computedLines_split (named.computed value member),
      List.filterMap_cons_some (declaredName?_eq_some free), List.filterMap_append, body, closing]
    rfl
  rw [setupLines, List.filterMap_append, List.filterMap_append, List.filterMap_append,
    List.filterMap_append, imports, header, collections, computedHeader, values, storeNames]
  simp

/-- No line above the object that a store returns opens it. -/
theorem setupLines_unreturned (named : document.IsNamed) :
    ∀ line ∈ setupLines document.data document.computed, line ≠ returnOpening := by
  have other {line : Text} (third : line.third? ≠ some 'r') : line ≠ returnOpening := by
    rintro rfl
    exact third (by decide)
  have constant (rest : Text) : Text.third? ("  const " ++ rest) ≠ some 'r' := by
    rw [Text.third?_append (by decide)]
    decide
  have closing : ∀ line ∈ [computedEnding, []], line ≠ returnOpening := by decide
  have plain := List.forall_mem_append.mp storeHeader_plain
  simp only [setupLines, List.forall_mem_append]
  refine ⟨⟨⟨⟨?_, fun line among => other (plain.1 line among).2.2⟩, ?_⟩,
    fun line among => other (plain.2 line among).2.2⟩, ?_⟩
  · intro line among
    refine other ?_
    rw [storeImports_third _ line among]
    decide
  · intro line among
    obtain ⟨model, _, rfl⟩ := List.mem_map.mp among
    rw [collectionLine_eq]
    exact other (constant _)
  · intro line among
    obtain ⟨value, member, inValue⟩ := List.mem_flatMap.mp among
    rw [computedLines_split (named.computed value member)] at inValue
    rcases List.mem_cons.mp inValue with rfl | below
    · exact other (constant _)
    · rcases List.mem_append.mp below with body | closed
      · exact other (Text.splitOn_indentBy_third _ (by decide) line body)
      · exact closing line closed

/-- A store declares its names and then returns them. -/
theorem storeLines_split (named : document.IsNamed) :
    (storeLines document.data document.computed).flatMap (Text.splitOn '\n') =
      setupLines document.data document.computed ++ returnOpening ::
        ((storeNames document.data document.computed).map exportLine ++
          returnEnding :: [['}', ')', ';']]) := by
  have plain : ∀ line ∈ storeImports document.data ++ storeHeader ++
      document.data.map collectionLine ++ computedHeader, '\n' ∉ line := by
    have header := List.forall_mem_append.mp storeHeader_plain
    simp only [List.forall_mem_append]
    refine ⟨⟨⟨storeImports_unbroken named, fun line among => (header.1 line among).1⟩, ?_⟩,
      fun line among => (header.2 line among).1⟩
    intro line among
    obtain ⟨model, member, rfl⟩ := List.mem_map.mp among
    exact collectionLine_unbroken (named.models model member)
  have exports : ∀ line ∈ storeReturn ++ (storeNames document.data document.computed).map
      exportLine ++ storeClosing, '\n' ∉ line := by
    simp only [List.forall_mem_append]
    refine ⟨⟨by decide, ?_⟩, by decide⟩
    intro line among
    obtain ⟨name, member, rfl⟩ := List.mem_map.mp among
    exact exportLine_unbroken (storeNames_free named (by decide) name member)
  have whole : storeLines document.data document.computed =
      (storeImports document.data ++ storeHeader ++ document.data.map collectionLine ++
        computedHeader) ++ (document.computed.flatMap computedLines ++ (storeReturn ++
          (storeNames document.data document.computed).map exportLine ++ storeClosing)) := by
    simp only [storeLines, List.append_assoc]
  have cut (above values below : List Text) :
      (above ++ (values ++ below)).flatMap (Text.splitOn '\n') = above.flatMap (Text.splitOn '\n') ++
        (values.flatMap (Text.splitOn '\n') ++ below.flatMap (Text.splitOn '\n')) := by
    rw [List.flatMap_append, List.flatMap_append]
  rw [whole, cut, Text.flatMap_splitOn plain, Text.flatMap_splitOn exports, List.flatMap_assoc,
    setupLines]
  simp only [List.append_assoc]
  rfl

theorem exportLine_key {name : Text} (free : ',' ∉ name) :
    ((exportLine name).drop 4).takeWhile (· ≠ ',') = name := by
  have solid : ∀ c ∈ name, decide (c ≠ ',') = true :=
    fun c member => decide_eq_true fun same => free (same ▸ member)
  have stops : Stops (fun c => decide (c ≠ ',')) [','] := by simp
  have below : (exportLine name).drop 4 = name ++ [','] := by
    rw [exportLine, List.append_assoc]
    rfl
  rw [below, stops.takeWhile_append solid]

theorem exportLine_third (name : Text) : Text.third? (exportLine name) = some ' ' := by
  rw [exportLine, List.append_assoc, Text.third?_append (by decide)]
  decide

/-- The store of a document declares its names and returns them as well. -/
theorem storeArtifact?_names (named : document.IsNamed) {store : Artifact}
    (found : storeArtifact? document.data document.computed = some store) :
    store.declaredNames = storeNames document.data document.computed ∧
      store.returnedKeys = storeNames document.data document.computed := by
  obtain ⟨_, rfl⟩ := storeArtifact?_eq_some.mp found
  have lines : Text.splitOn '\n' (Artifact.ofLines storePath
      (storeLines document.data document.computed)).content = _ :=
    (Text.splitOn_join_eq '\n' (by simp [storeLines, storeImports])).trans (storeLines_split named)
  have free : ∀ name ∈ storeNames document.data document.computed, ',' ∉ name :=
    storeNames_free named (by decide)
  have ending : ∀ line ∈ returnEnding :: [['}', ')', ';']], line.third? ≠ some 'c' := by decide
  have below : ((storeNames document.data document.computed).map exportLine ++
      returnEnding :: [['}', ')', ';']]).filterMap declaredName? = [] := by
    refine List.filterMap_eq_nil_iff.mpr fun line among => declaredName?_eq_none ?_
    rcases List.mem_append.mp among with key | closing
    · obtain ⟨name, _, rfl⟩ := List.mem_map.mp key
      rw [exportLine_third]
      decide
    · exact ending line closing
  have unreturned : ∀ line ∈ setupLines document.data document.computed,
      decide (line ≠ returnOpening) = true :=
    fun line among => decide_eq_true (setupLines_unreturned named line among)
  have keys : ∀ line ∈ (storeNames document.data document.computed).map exportLine,
      decide (line ≠ returnEnding) = true := by
    intro line among
    obtain ⟨name, _, rfl⟩ := List.mem_map.mp among
    refine decide_eq_true fun same => ?_
    have third := exportLine_third name
    rw [same] at third
    exact absurd third (by decide)
  constructor
  · rw [Artifact.declaredNames, lines, List.filterMap_append, setupLines_declared named,
      List.filterMap_cons_none (by decide), below, List.append_nil]
  · rw [Artifact.returnedKeys, lines, Stops.dropWhile_append unreturned (by simp), List.tail_cons,
      Stops.takeWhile_append keys (by simp), List.map_map]
    exact (List.map_congr_left fun name member => exportLine_key (free name member)).trans
      (List.map_id _)

/-- The names of a store are distinct exactly if models share a collection only where they share a name,
and no computed value is named like a collection. -/
theorem storeNames_nodup (valid : document.lintErrors = []) :
    (storeNames document.data document.computed).Nodup ↔
      (∀ model ∈ document.data, ∀ other ∈ document.data,
        collectionName model.name = collectionName other.name → model.name = other.name) ∧
      ∀ model ∈ document.data, ∀ value ∈ document.computed,
        collectionName model.name ≠ value.name := by
  obtain ⟨models, _, computed⟩ := document.names_nodup valid
  have apart : (document.data.map fun model => collectionName model.name).Disjoint
      (document.computed.map ComputedValue.name) ↔
      ∀ model ∈ document.data, ∀ value ∈ document.computed,
        collectionName model.name ≠ value.name := by
    constructor
    · intro disjoint model member value among same
      refine disjoint (List.mem_map_of_mem member) ?_
      rw [same]
      exact List.mem_map_of_mem among
    · intro differ name collection inComputed
      obtain ⟨model, member, rfl⟩ := List.mem_map.mp collection
      obtain ⟨value, among, same⟩ := List.mem_map.mp inComputed
      exact differ model member value among same.symm
  rw [storeNames, List.nodup_append', List.nodup_map_iff_inj_on models.of_map, apart]
  constructor
  · rintro ⟨collections, _, differ⟩
    refine ⟨fun model member other otherMember same => ?_, differ⟩
    rw [collections model member other otherMember same]
  · rintro ⟨collections, differ⟩
    refine ⟨fun model member other otherMember same => ?_, computed, differ⟩
    exact List.inj_on_of_nodup_map models member otherMember
      (collections model member other otherMember same)

end Vue

variable {source : Text} {document : Document}

/-- The store of a valid document declares the names of its collections and its computed values, and
returns them. They are distinct, in both places, exactly if models share a collection only where they
share a name, and no computed value is named like a collection. -/
theorem Document.store_distinct (parsed : parse source = .ok document)
    (valid : document.lintErrors = []) :
    ∀ store ∈ Vue.artifacts document, store.path = Vue.storePath →
      store.declaredNames = Vue.storeNames document.data document.computed ∧
      store.returnedKeys = Vue.storeNames document.data document.computed ∧
      ((Vue.storeNames document.data document.computed).Nodup ↔
        (∀ model ∈ document.data, ∀ other ∈ document.data,
          Vue.collectionName model.name = Vue.collectionName other.name →
            model.name = other.name) ∧
        ∀ model ∈ document.data, ∀ value ∈ document.computed,
          Vue.collectionName model.name ≠ value.name) := by
  intro store generated path
  have found : Vue.storeArtifact? document.data document.computed = some store := by
    rcases Vue.mem_artifacts.mp generated with models | found | ⟨interface, _, rfl⟩
    · rw [Vue.modelsArtifact?_path models] at path
      exact absurd path (by decide)
    · exact found
    · exact absurd path (Vue.componentPath_ne (by decide) interface)
  obtain ⟨declared, returned⟩ := Vue.storeArtifact?_names (isNamed_of_parse parsed) found
  exact ⟨declared, returned, Vue.storeNames_nodup valid⟩

theorem Document.store_distinct_plural :
    let source : Text := "data Post:\ndata Status:\ncomputed total: posts.length\n"
    ∃ document, parse source = .ok document ∧ document.lintErrors = [] ∧
      ∃ store ∈ Vue.artifacts document, store.path = Vue.storePath ∧
        store.declaredNames = ["posts".toList, "status".toList, "total".toList] ∧
        store.returnedKeys.Nodup := by
  intro source
  let document := ofDeclarations (Outline.ofSource source).declarations
  have parsed : parse source = .ok document := parse_eq_ok.mpr ⟨by decide +kernel, rfl⟩
  have valid : document.lintErrors = [] := by decide +kernel
  have names : Vue.storeNames document.data document.computed =
      ["posts".toList, "status".toList, "total".toList] := by decide +kernel
  have stocked : document.data ≠ [] ∨ document.computed ≠ [] := .inl (by decide +kernel)
  have generated := Vue.mem_artifacts.mpr
    (.inr (.inl (Vue.storeArtifact?_eq_some.mpr ⟨stocked, rfl⟩)))
  obtain ⟨declared, returned, distinct⟩ := store_distinct parsed valid _ generated rfl
  refine ⟨document, parsed, valid, _, generated, rfl, declared.trans names, ?_⟩
  rw [returned]
  exact distinct.mpr (by decide +kernel)

/-- Two models and a computed value with names of their own are all called `posts` in the store. -/
theorem Document.store_redeclares : ∃ document,
    parse "data Post:\ndata Posts:\ncomputed posts: 1\n" = .ok document ∧
      document.lintErrors = [] ∧ ∃ store ∈ Vue.artifacts document, store.path = Vue.storePath ∧
        ¬store.declaredNames.Nodup ∧ ¬store.returnedKeys.Nodup := by
  let document :=
    ofDeclarations (Outline.ofSource "data Post:\ndata Posts:\ncomputed posts: 1\n").declarations
  have parsed : parse _ = .ok document := parse_eq_ok.mpr ⟨by decide +kernel, rfl⟩
  have stocked : document.data ≠ [] ∨ document.computed ≠ [] := .inl (by decide +kernel)
  have found := Vue.storeArtifact?_eq_some.mpr ⟨stocked, rfl⟩
  obtain ⟨declared, returned⟩ := Vue.storeArtifact?_names (isNamed_of_parse parsed) found
  have collide : ¬(Vue.storeNames document.data document.computed).Nodup := by decide +kernel
  exact ⟨document, parsed, by decide +kernel, _, Vue.mem_artifacts.mpr (.inr (.inl found)), rfl,
    declared ▸ collide, returned ▸ collide⟩

end AppDescription
