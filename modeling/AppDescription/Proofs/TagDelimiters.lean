import AppDescription.Proofs.ArtifactLines
import AppDescription.Proofs.ForeignCharacters
import AppDescription.Proofs.NamedElements

namespace AppDescription

namespace Vue

theorem attribute?_eq_some {key value : Text} {written : Attribute}
    (found : attribute? key value = some written) :
    written = ⟨":class", Text.braced (" active: " ++ toCondition value ++ " ")⟩ ∨
      written.name ∈ [":src".toList, "src".toList, ":data-icon".toList] ∧ written.value = value ∨
      written = ⟨"data-icon", trimQuotes value⟩ := by
  unfold attribute? at found
  split at found
  · exact .inl (Option.some.inj found).symm
  · split at found
    · cases found
      refine .inr (.inl ⟨?_, rfl⟩)
      dsimp only
      split <;> simp
    · split at found
      · split at found <;> cases found
        · exact .inr (.inl ⟨by simp, rfl⟩)
        · exact .inr (.inr rfl)
      · cases found

/-- The attribute of a property has a quote only where what is spliced in has one. -/
theorem propertySplice?_free {key value : Text} {splice : Splice}
    (found : propertySplice? key value = some splice)
    (free : ∀ expression ∈ splice.expression?, '"' ∉ expression) : '"' ∉ splice.value := by
  obtain ⟨written, made, rfl⟩ := Option.map_eq_some_iff.mp found
  have spliced := free _ rfl
  rcases attribute?_eq_some made with rfl | ⟨name, same⟩ | rfl
  · have active : (if ":class".toList = "data-icon".toList then trimQuotes value else value) =
        value := if_neg (by decide)
    have inside : '"' ∉ toCondition value :=
      mt quote_isForeign.mem_of_toCondition (active ▸ spliced)
    exact Text.not_mem_braced
      (List.not_mem_append (List.not_mem_append (by decide) inside) (by decide)) (by decide) (by decide)
  · have other : written.name ≠ "data-icon".toList := by
      intro icon
      rw [icon] at name
      exact absurd name (by decide)
    rw [if_neg other] at spliced
    exact same ▸ spliced
  · have icon : (if "data-icon".toList = "data-icon".toList then trimQuotes value else value) =
        trimQuotes value := if_pos rfl
    exact icon ▸ spliced

/-- The names of all attributes with a value. -/
def attributeNames : List Text :=
  ["class", ":class", "src", ":src", "data-icon", ":data-icon", "v-if", "v-for", ":key", "lang"]

theorem propertySplice?_name {key value : Text} {splice : Splice}
    (found : propertySplice? key value = some splice) : splice.name ∈ attributeNames := by
  obtain ⟨written, made, rfl⟩ := Option.map_eq_some_iff.mp found
  have known : [":src".toList, "src".toList, ":data-icon".toList] ⊆ attributeNames := by decide
  rcases attribute?_eq_some made with rfl | ⟨name, _⟩ | rfl
  · simp [attributeNames]
  · exact known name
  · simp [attributeNames]

theorem tagOf_isPlain (kind : Text) : ∀ c ∈ tagOf kind, isPlain c = true := by
  have known : ∀ tag ∈ "div".toList :: "button".toList :: knownTags, tag.all isPlain = true := by
    decide +kernel
  refine List.all_eq_true.mp (known (tagOf kind) ?_)
  unfold tagOf
  dsimp only
  split
  · simp
  · cases found : knownTags.find? (mentionsTag (Text.lower kind)) with
    | none => simp
    | some tag =>
      exact List.mem_cons_of_mem _ (List.mem_cons_of_mem _ (List.mem_of_find?_eq_some found))

namespace Opening

variable {opening : Opening}

theorem tag_isPlain (opening : Opening) : ∀ c ∈ opening.tag, isPlain c = true := by
  have div : ∀ c ∈ "div".toList, isPlain c = true := List.all_eq_true.mp (by decide)
  cases opening with
  | display kind => exact tagOf_isPlain kind
  | root | condition | otherwise | iteration => exact div
  | template | script | style => exact List.all_eq_true.mp (by decide)

theorem flags_known (opening : Opening) : opening.flags ⊆ ["v-else", "setup", "scoped"] := by
  cases opening <;> simp [flags]

theorem splices_name (opening : Opening) :
    ∀ splice ∈ opening.splices, splice.name ∈ attributeNames := by
  cases opening with
  | display kind properties =>
    refine List.forall_mem_cons.mpr ⟨by simp [attributeNames], fun splice member => ?_⟩
    obtain ⟨_, _, found⟩ := List.mem_filterMap.mp member
    exact propertySplice?_name found
  | _ => simp [splices, attributeNames]

/-- An attribute has a quote in its value only where the expression spliced into it has one. -/
theorem splices_free (named : opening.IsNamed) : ∀ splice ∈ opening.splices,
    (∀ expression ∈ splice.expression?, '"' ∉ expression) → '"' ∉ splice.value := by
  cases opening with
  | template | otherwise | style => simp [splices]
  | script => exact List.forall_mem_singleton.mpr fun _ => by decide
  | root name => exact List.forall_mem_singleton.mpr fun _ => kebabCase_free named (by decide)
  | display kind properties =>
    refine List.forall_mem_cons.mpr ⟨fun _ => kebabCase_free named (by decide), ?_⟩
    intro splice member
    obtain ⟨_, _, found⟩ := List.mem_filterMap.mp member
    exact propertySplice?_free found
  | condition expression =>
    refine List.forall_mem_singleton.mpr fun free => ?_
    exact mt quote_isForeign.mem_of_toCondition (free expression rfl)
  | iteration item collection =>
    have itemFree : '"' ∉ item := named.free (by decide)
    refine List.forall_mem_cons.mpr ⟨fun free => ?_, List.forall_mem_singleton.mpr fun _ => ?_⟩
    · exact List.not_mem_append (List.not_mem_append itemFree (by decide)) (free collection rfl)
    · exact List.not_mem_append itemFree (by decide)

theorem marks_isDelimited (named : opening.IsNamed)
    (free : ∀ splice ∈ opening.splices, ∀ expression ∈ splice.expression?, '"' ∉ expression) :
    ∀ mark ∈ opening.marks, mark.IsDelimited := by
  have plain : ∀ name ∈ attributeNames, name.all isPlain = true := by decide
  have plainFlag : ∀ flag ∈ ["v-else".toList, "setup".toList, "scoped".toList],
      flag.all isPlain = true := by decide
  unfold marks
  rw [List.forall_mem_append, List.forall_mem_map, List.forall_mem_map]
  constructor
  · intro flag member
    exact ⟨List.all_eq_true.mp (plainFlag flag (opening.flags_known member)), by simp⟩
  · intro splice member
    refine ⟨List.all_eq_true.mp (plain _ (opening.splices_name splice member)), ?_⟩
    rintro value ⟨rfl⟩
    exact splices_free named splice member (free splice member)

end Opening

end Vue

open Vue

/-- The tags of a component are well delimited. It is written entry by entry, with an opening tag for
each element of the interface, in the order in which they are visited. Every attribute of an opening
tag has a value between double quotes, but for a few that stand alone. A value has no double quote in
it where none is spliced in, and where this is so throughout a tag, its line is read back as the tag
and its attributes. -/
theorem Document.tags_delimited {source : Text} {document : Document}
    (parsed : parse source = .ok document) {interface : Interface}
    (member : interface ∈ document.interfaces) :
    let entries := componentEntries document.computed interface
    (componentArtifact document.computed interface).content =
      Text.join ['\n'] (entries.map Entry.line) ∧
    entries.filterMap Entry.element? = interface.walk.map Opening.ofElement ∧
    ∀ level opening, Entry.opening level opening ∈ entries →
      opening.flags ⊆ ["v-else", "setup", "scoped"] ∧
      (∀ splice ∈ opening.splices,
        (∀ expression ∈ splice.expression?, '"' ∉ expression) → '"' ∉ splice.value) ∧
      ((∀ splice ∈ opening.splices, ∀ expression ∈ splice.expression?, '"' ∉ expression) →
        readTag? (Entry.opening level opening).line = some (opening.tag, opening.marks)) := by
  have name := (isNamed_of_parse parsed).interfaces interface member
  have named := componentEntries_isNamed document.computed name (elements_isNamed parsed member)
  refine ⟨?_, componentEntries_walk _ _, ?_⟩
  · rw [componentEntries_line, componentArtifact, Artifact.ofLines]
  · intro level opening among
    have opens : opening.IsNamed := named _ among
    refine ⟨opening.flags_known, Opening.splices_free opens, fun free => ?_⟩
    exact readTag?_tagText opening.tag_isPlain (Opening.marks_isDelimited opens free) level

theorem Document.tags_delimited_icon :
    let source : Text := "interface Home:\n  show nav_tab:\n    active: not is_open\n    icon: \"star\"\n"
    let opening : Opening := .display "nav_tab" [("active", "not is_open"), ("icon", "\"star\"")]
    ∃ document, parse source = .ok document ∧ ∃ interface ∈ document.interfaces,
      Entry.opening 2 opening ∈ componentEntries document.computed interface ∧
      readTag? (Entry.opening 2 opening).line = some ("button".toList, [⟨"class", some "nav-tab"⟩,
        ⟨":class", some "{ active: !isOpen }"⟩, ⟨"data-icon", some "star"⟩]) := by
  intro source opening
  have faultless : (Outline.ofSource source).fault? = none := by decide +kernel
  have parsed := parse_eq_ok.mpr ⟨faultless, rfl⟩
  have opens : ∃ interface ∈ (ofDeclarations (Outline.ofSource source).declarations).interfaces,
      Entry.opening 2 opening ∈ componentEntries
        (ofDeclarations (Outline.ofSource source).declarations).computed interface := by
    decide +kernel
  obtain ⟨interface, member, among⟩ := opens
  have free : ∀ splice ∈ opening.splices, ∀ expression ∈ splice.expression?, '"' ∉ expression := by
    decide +kernel
  have marks : opening.marks = [⟨"class", some "nav-tab"⟩,
      ⟨":class", some "{ active: !isOpen }"⟩, ⟨"data-icon", some "star"⟩] := by decide +kernel
  have read := ((tags_delimited parsed member).2.2 2 opening among).2.2 free
  rw [marks] at read
  exact ⟨_, parsed, interface, member, among, read⟩

/-- An `else` is an attribute that stands alone, and a comparison with a text brings quotes into a
value. -/
theorem Document.tags_undelimited :
    let source : Text := "interface Home:\n  when tab equals \"home\":\n    show card:\n" ++
      "  else:\n    show form:\n"
    ∃ document, parse source = .ok document ∧ ∃ interface ∈ document.interfaces,
      (∃ mark ∈ Opening.otherwise.marks, mark.value? = none) ∧
      Entry.opening 2 .otherwise ∈ componentEntries document.computed interface ∧
      (∃ mark ∈ (Opening.condition "tab equals \"home\"").marks, ∃ value ∈ mark.value?, '"' ∈ value) ∧
      Entry.opening 2 (.condition "tab equals \"home\"") ∈
        componentEntries document.computed interface ∧
      readTag? (Entry.opening 2 (.condition "tab equals \"home\"")).line = none := by
  intro source
  refine ⟨_, parse_eq_ok.mpr ⟨?_, rfl⟩, ?_⟩ <;> decide +kernel

end AppDescription
