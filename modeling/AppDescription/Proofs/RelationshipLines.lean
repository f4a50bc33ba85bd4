import AppDescription.Proofs.DeclarationPlaces
import AppDescription.Proofs.FieldLines
import AppDescription.Proofs.Outlying

namespace AppDescription

/-- Each line with those above it, the nearest first. -/
def withAbove (above : List Line) : List Line → List (List Line × Line)
  | [] => []
  | line :: rest => (above, line) :: withAbove (line :: above) rest

namespace Line

/-- A line is in the section that another one opens when it is deeper, and so is all that stands
between the two. -/
def InSection (line opener : Line) (between : List Line) : Prop :=
  opener.indent < line.indent ∧ ∀ other ∈ between, opener.indent < other.indent

instance decidableInSection (line opener : Line) (between : List Line) :
    Decidable (line.InSection opener between) :=
  inferInstanceAs (Decidable (_ ∧ _))

/-- Of the lines above a line, the nearest one that is `relationships:` and not itself in such a
section, with the lines in between. -/
def opener? : List Line → Option (Line × List Line)
  | [] => none
  | line :: above =>
    if line.text = "relationships:".toList ∧
        ¬∃ found ∈ opener? above, line.InSection found.1 found.2 then
      some (line, [])
    else (opener? above).map fun found => (found.1, line :: found.2)

/-- A line of a relationship section, given the significant lines of its block above it. -/
def IsRelationship (above : List Line) (line : Line) : Prop :=
  ∃ found ∈ opener? above, line.InSection found.1 found.2

instance decidableIsRelationship (above : List Line) (line : Line) :
    Decidable (line.IsRelationship above) :=
  inferInstanceAs (Decidable (∃ found ∈ opener? above, line.InSection found.1 found.2))

variable {line opener : Line} {above : List Line}

theorem opener?_of_opens (opens : line.text = "relationships:".toList)
    (outside : ¬line.IsRelationship above) : opener? (line :: above) = some (line, []) :=
  if_pos ⟨opens, outside⟩

theorem opener?_of_other (other : line.text ≠ "relationships:".toList) :
    opener? (line :: above) = (opener? above).map fun found => (found.1, line :: found.2) :=
  if_neg fun opens => other opens.1

/-- What is deeper than an opener does not open a section of its own. -/
theorem opener?_append (opened : opener? (opener :: above) = some (opener, []))
    {deep : List Line} (deeper : ∀ line ∈ deep, opener.indent < line.indent) :
    opener? (deep ++ opener :: above) = some (opener, deep) := by
  induction deep with
  | nil => exact opened
  | cons line deep ih =>
    obtain ⟨first, others⟩ := List.forall_mem_cons.mp deeper
    have same := ih others
    have inside : ∃ found ∈ opener? (deep ++ opener :: above), line.InSection found.1 found.2 :=
      ⟨_, same, first, others⟩
    rw [List.cons_append, opener?, if_neg (fun opens => opens.2 inside), same]
    rfl

/-- Past a line that neither opens a section nor is in one, nothing is. -/
theorem not_isRelationship_cons {next : Line} (other : line.text ≠ "relationships:".toList)
    (outside : ¬line.IsRelationship above) : ¬next.IsRelationship (line :: above) := by
  rintro ⟨found, opened, _, deeper⟩
  rw [opener?_of_other other] at opened
  obtain ⟨⟨opener, between⟩, earlier, rfl⟩ := Option.map_eq_some_iff.mp opened
  obtain ⟨first, others⟩ := List.forall_mem_cons.mp deeper
  exact outside ⟨(opener, between), earlier, first, others⟩

end Line

/-- The lines of relationship sections. -/
def relationshipLines (above lines : List Line) : List Line :=
  ((withAbove above lines).filter fun entry => entry.2.IsRelationship entry.1).map Prod.snd

/-- The lines in no relationship section. -/
def plainLines (above lines : List Line) : List Line :=
  ((withAbove above lines).filter fun entry => ¬entry.2.IsRelationship entry.1).map Prod.snd

theorem map_snd_withAbove (above lines : List Line) :
    (withAbove above lines).map Prod.snd = lines := by
  induction lines generalizing above with
  | nil => rfl
  | cons line rest ih => rw [withAbove, List.map_cons, ih]

theorem withAbove_append (above left right : List Line) :
    withAbove above (left ++ right) =
      withAbove above left ++ withAbove (left.reverse ++ above) right := by
  induction left generalizing above with
  | nil => rfl
  | cons line left ih =>
    rw [List.cons_append, withAbove, ih, withAbove, List.reverse_cons, List.append_assoc]
    rfl

theorem mem_withAbove {above lines : List Line} {entry : List Line × Line}
    (among : entry ∈ withAbove above lines) :
    ∃ front, entry.1 = front.reverse ++ above ∧ front ⊆ lines ∧ entry.2 ∈ lines := by
  induction lines generalizing above with
  | nil => cases among
  | cons line rest ih =>
    rcases List.mem_cons.mp among with rfl | later
    · exact ⟨[], rfl, List.nil_subset _, List.mem_cons_self⟩
    · obtain ⟨front, same, subset, member⟩ := ih later
      refine ⟨line :: front, ?_, List.cons_subset_cons line subset, List.mem_cons_of_mem _ member⟩
      rw [same, List.reverse_cons, List.append_assoc]
      rfl

section

variable (above : List Line)

theorem relationshipLines_append (left right : List Line) :
    relationshipLines above (left ++ right) =
      relationshipLines above left ++ relationshipLines (left.reverse ++ above) right := by
  simp only [relationshipLines, withAbove_append, List.filter_append, List.map_append]

theorem plainLines_append (left right : List Line) :
    plainLines above (left ++ right) =
      plainLines above left ++ plainLines (left.reverse ++ above) right := by
  simp only [plainLines, withAbove_append, List.filter_append, List.map_append]

variable {above} {line : Line}

theorem relationshipLines_cons (outside : ¬line.IsRelationship above) (rest : List Line) :
    relationshipLines above (line :: rest) = relationshipLines (line :: above) rest := by
  rw [relationshipLines, withAbove, List.filter_cons_of_neg (by simpa using outside), relationshipLines]

theorem plainLines_cons (outside : ¬line.IsRelationship above) (rest : List Line) :
    plainLines above (line :: rest) = line :: plainLines (line :: above) rest := by
  rw [plainLines, withAbove, List.filter_cons_of_pos (by simpa using outside), List.map_cons,
    plainLines]

/-- All that is deeper than an opener is in its section. -/
theorem isRelationship_of_opened {lines : List Line} (opens : line.text = "relationships:".toList)
    (outside : ¬line.IsRelationship above) (deeper : ∀ other ∈ lines, line.indent < other.indent) :
    ∀ entry ∈ withAbove (line :: above) lines, entry.2.IsRelationship entry.1 := by
  intro entry among
  obtain ⟨front, same, subset, member⟩ := mem_withAbove among
  have held : ∀ other ∈ front.reverse, line.indent < other.indent :=
    fun other inside => deeper other (subset (List.mem_reverse.mp inside))
  rw [same]
  exact ⟨_, Line.opener?_append (Line.opener?_of_opens opens outside) held, deeper entry.2 member, held⟩

theorem relationshipLines_of_opened {lines : List Line} (opens : line.text = "relationships:".toList)
    (outside : ¬line.IsRelationship above) (deeper : ∀ other ∈ lines, line.indent < other.indent) :
    relationshipLines (line :: above) lines = lines := by
  have all := isRelationship_of_opened opens outside deeper
  rw [relationshipLines, List.filter_eq_self.mpr (by simpa using all), map_snd_withAbove]

theorem plainLines_of_opened {lines : List Line} (opens : line.text = "relationships:".toList)
    (outside : ¬line.IsRelationship above) (deeper : ∀ other ∈ lines, line.indent < other.indent) :
    plainLines (line :: above) lines = [] := by
  have all := isRelationship_of_opened opens outside deeper
  rw [plainLines, List.filter_eq_nil_iff.mpr (by simpa using all), List.map_nil]

end

/-- Every line is in one of the two parts, and in order. -/
theorem relationshipLines_plainLines (above lines : List Line) :
    (relationshipLines above lines).Sublist lines ∧ (plainLines above lines).Sublist lines ∧
      (relationshipLines above lines ++ plainLines above lines).Perm lines := by
  have whole := map_snd_withAbove above lines
  refine ⟨?_, ?_, ?_⟩
  · have part := (List.filter_sublist (p := fun entry => entry.2.IsRelationship entry.1)
      (l := withAbove above lines)).map Prod.snd
    rwa [whole] at part
  · have part := (List.filter_sublist (p := fun entry => ¬entry.2.IsRelationship entry.1)
      (l := withAbove above lines)).map Prod.snd
    rwa [whole] at part
  · have parts := (List.filter_append_perm (fun entry => decide (entry.2.IsRelationship entry.1))
      (withAbove above lines)).map Prod.snd
    rw [List.map_append, whole] at parts
    simpa only [relationshipLines, plainLines, decide_not] using parts

namespace DataEntry

theorem relationships_append (left right : List DataEntry) :
    relationships (left ++ right) = relationships left ++ relationships right :=
  List.filterMap_append

theorem fields_append (left right : List DataEntry) :
    fields (left ++ right) = fields left ++ fields right :=
  List.filterMap_append

theorem relationships_of_texts (texts : List Text) :
    relationships (texts.map relationship) = texts := by
  rw [relationships, List.filterMap_map]
  exact List.filterMap_some

theorem fields_of_texts (texts : List Text) : fields (texts.map relationship) = [] := by
  rw [fields, List.filterMap_map]
  exact List.filterMap_eq_nil_iff.mpr fun _ _ => rfl

theorem field?_of_opens {line : Line} (opens : line.text = "relationships:".toList) :
    field? line = none := by
  have bare : Header.field? "relationships:" = none := by decide +kernel
  rw [field?, opens, bare, Option.bind_none]

/-- The first significant line after a block is no deeper than the header of the block. -/
theorem not_isRelationship_afterBlock {line next : Line} {above lines deep : List Line}
    (opened : Line.opener? (deep ++ line :: above) = some (line, deep))
    (comes : next ∈ nextSignificant? (afterBlock line.inner lines)) :
    ¬next.IsRelationship (deep ++ line :: above) := by
  rintro ⟨found, same, deeper, _⟩
  cases Option.some.inj (opened.symm.trans same)
  have outlies := afterBlock_outlies line.inner lines
  cases left : afterBlock line.inner lines with
  | nil => simp [left, nextSignificant?] at comes
  | cons first rest =>
    rw [left] at outlies comes
    obtain ⟨significant, outside⟩ := outlies first rfl
    rw [nextSignificant?, List.find?_cons_of_pos significant] at comes
    cases comes
    exact absurd deeper (by rw [Line.inner] at outside; dsimp only; omega)

/-- What is read from the lines of a block, when its first significant line is in no section: the
lines of the sections as they stand, and of the others those that define a field. -/
theorem read_partition {above lines : List Line}
    (outside : ∀ line ∈ nextSignificant? lines, ¬line.IsRelationship above) :
    relationships (read lines) =
        (relationshipLines above (lines.filter Line.isSignificant)).map Line.text ∧
      fields (read lines) = (plainLines above (lines.filter Line.isSignificant)).filterMap field? := by
  induction lines using read.induct generalizing above with
  | case1 => simp [read, relationships, fields, relationshipLines, plainLines, withAbove]
  | case2 line rest significant opens ih =>
    have alone : ¬line.IsRelationship above :=
      outside line (List.find?_cons_of_pos significant)
    have opened := Line.opener?_of_opens opens alone
    have deeper : ∀ other ∈ (block line.inner rest).filter Line.isSignificant,
        line.indent < other.indent := by
      intro other member
      obtain ⟨inside, shown⟩ := List.mem_filter.mp member
      exact (Line.within_iff shown).mp (List.mem_takeWhile_imp inside)
    have held : ∀ other ∈ ((block line.inner rest).filter Line.isSignificant).reverse,
        line.indent < other.indent := fun other member => deeper other (List.mem_reverse.mp member)
    obtain ⟨texts, given⟩ := ih fun next comes =>
      not_isRelationship_afterBlock (Line.opener?_append opened held) comes
    have cut : rest.filter Line.isSignificant = (block line.inner rest).filter Line.isSignificant ++
        (afterBlock line.inner rest).filter Line.isSignificant := by
      rw [← List.filter_append, block_append_afterBlock]
    rw [read, if_pos significant, if_pos opens, List.filter_cons_of_pos significant,
      relationshipLines_cons alone, plainLines_cons alone, cut, relationshipLines_append,
      plainLines_append, relationshipLines_of_opened opens alone deeper,
      plainLines_of_opened opens alone deeper, relationships_append, fields_append, texts, given,
      List.map_append, List.filterMap_cons_none (field?_of_opens opens), List.nil_append]
    exact ⟨congrArg (· ++ _) (relationships_of_texts _), congrArg (· ++ _) (fields_of_texts _)⟩
  | case3 line rest significant plain field found ih =>
    have alone : ¬line.IsRelationship above :=
      outside line (List.find?_cons_of_pos significant)
    obtain ⟨texts, given⟩ := ih fun next _ => Line.not_isRelationship_cons plain alone
    rw [read, if_pos significant, if_neg plain, found, List.filter_cons_of_pos significant,
      relationshipLines_cons alone, plainLines_cons alone, List.filterMap_cons_some found]
    exact ⟨texts, congrArg (field :: ·) given⟩
  | case4 line rest significant plain missing ih =>
    have alone : ¬line.IsRelationship above :=
      outside line (List.find?_cons_of_pos significant)
    obtain ⟨texts, given⟩ := ih fun next _ => Line.not_isRelationship_cons plain alone
    rw [read, if_pos significant, if_neg plain, missing, List.filter_cons_of_pos significant,
      relationshipLines_cons alone, plainLines_cons alone, List.filterMap_cons_none missing]
    exact ⟨texts, given⟩
  | case5 line rest hidden ih =>
    rw [nextSignificant?, List.find?_cons_of_neg hidden] at outside
    rw [read, if_neg hidden, List.filter_cons_of_neg hidden]
    exact ih outside

end DataEntry

/-- Each line that declares a data model, with all the lines below it. -/
def dataPlaces (lines : List Line) : List (Line × List Line) :=
  (declarationPlaces lines).filter fun place => place.1.declarationKind? = some .data

/-- A model stands for the significant lines of its block: every line of a relationship section is kept
as it stands, every other line that defines a field gives it, and nothing else is in the model. -/
structure DataModel.Partitions (model : DataModel) (lines : List Line) : Prop where
  relationships : model.relationships = (relationshipLines [] lines).map Line.text
  fields : List.Forall₂ Line.Gives ((plainLines [] lines).filter fun line => line.IsFieldLine)
    model.fields
  whole : (relationshipLines [] lines).Sublist lines ∧ (plainLines [] lines).Sublist lines ∧
    (relationshipLines [] lines ++ plainLines [] lines).Perm lines

/-- Of the lines of a block, those that define a field are paired with the fields. -/
theorem forall₂_gives (lines : List Line) :
    List.Forall₂ Line.Gives (lines.filter fun line => line.IsFieldLine)
      (lines.filterMap DataEntry.field?) := by
  induction lines with
  | nil => exact .nil
  | cons line rest ih =>
    cases found : DataEntry.field? line with
    | none =>
      have other : ¬line.IsFieldLine := by simp [← DataEntry.field?_isSome_iff, found]
      rw [List.filter_cons_of_neg (by simpa using other), List.filterMap_cons_none found]
      exact ih
    | some field =>
      have fieldLine : line.IsFieldLine := by simp [← DataEntry.field?_isSome_iff, found]
      rw [List.filter_cons_of_pos (by simpa using fieldLine), List.filterMap_cons_some found]
      exact .cons (DataEntry.field?_eq_some_iff.mp found) ih

theorem DataModel.partitions_of_read {name : Text} (lines : List Line) :
    (DataBlock.model ⟨name, DataEntry.read lines⟩).Partitions (lines.filter Line.isSignificant) := by
  have outside : ∀ line ∈ nextSignificant? lines, ¬line.IsRelationship [] := by
    rintro line _ ⟨_, found, _⟩
    cases found
  obtain ⟨texts, given⟩ := DataEntry.read_partition outside
  refine ⟨texts, ?_, relationshipLines_plainLines _ _⟩
  rw [DataBlock.model, given]
  exact forall₂_gives _

/-- A data block is taken apart without loss. Each model of a document stands for the significant lines
between its header and the next significant line at the margin. -/
theorem Document.data_partitioned {source : Text} {document : Document}
    (parsed : parse source = .ok document) :
    List.Forall₂ (fun place model => place.1.Announces (.data, model.name) ∧
        model.Partitions ((block 1 place.2).filter Line.isSignificant))
      (dataPlaces (Line.ofSource source)) document.data := by
  obtain ⟨faultless, rfl⟩ := parse_eq_ok.mp parsed
  refine forall₂_filterMap (Outline.declarations_readsAs faultless) ?_ ?_
  · intro place declaration reads kept
    have kind := Option.some.inj (reads.declares.symm.trans (of_decide_eq_true kept))
    cases declaration with
    | data data =>
      obtain ⟨name, entries⟩ := data
      obtain rfl : entries = _ := reads.data rfl
      exact ⟨_, rfl, reads.announces, DataModel.partitions_of_read _⟩
    | _ => cases kind
  · intro place declaration reads other
    cases declaration with
    | data block => exact absurd reads.declares (of_decide_eq_false other)
    | _ => rfl

/-- Two sections at different depths, the first with a line that looks like the start of another. -/
theorem Document.data_partitioned_nested :
    let source : Text := "data A:\n  x: text\n  relationships:\n    b: text\n     relationships:\n" ++
      "      c: d\n# e\n  y:  list of A\n      relationships:\n        z: w\n    q: number\napp B:\n"
    ∃ document, parse source = .ok document ∧ ∃ model ∈ document.data, model.name = "A".toList ∧
      model.relationships = ["b: text", "relationships:", "c: d", "z: w"] ∧
      List.Forall₂ Line.Gives [⟨2, "  x: text"⟩, ⟨8, "  y:  list of A"⟩, ⟨11, "    q: number"⟩]
        model.fields := by
  intro source
  have faultless : (Outline.ofSource source).fault? = none := by decide +kernel
  have parsed := parse_eq_ok.mpr ⟨faultless, rfl⟩
  let below : List Line := Line.numberFrom 2 (Text.splitOn '\n' source).tail
  have places : dataPlaces (Line.ofSource source) = [(⟨1, "data A:"⟩, below)] := by decide +kernel
  have models := data_partitioned parsed
  rw [places, List.forall₂_cons_left_iff] at models
  obtain ⟨model, _, ⟨announces, partitions⟩, _, same⟩ := models
  have name : (⟨1, "data A:"⟩ : Line).Announces (.data, "A") :=
    ⟨by decide +kernel, [], Header.named?_eq_some_iff.mp (by decide +kernel)⟩
  have related : (relationshipLines [] ((block 1 below).filter Line.isSignificant)).map Line.text =
      ["b: text", "relationships:", "c: d", "z: w"] := by decide +kernel
  have plain : ((plainLines [] ((block 1 below).filter Line.isSignificant)).filter
      fun line => line.IsFieldLine) =
      [⟨2, "  x: text"⟩, ⟨8, "  y:  list of A"⟩, ⟨11, "    q: number"⟩] := by decide +kernel
  refine ⟨_, parsed, model, same ▸ List.mem_cons_self, congrArg Prod.snd (announces.unique name),
    partitions.relationships.trans related, ?_⟩
  rw [← plain]
  exact partitions.fields

end AppDescription
