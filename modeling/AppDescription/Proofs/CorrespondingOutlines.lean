import AppDescription.Proofs.CorrespondingNodes

namespace AppDescription

namespace Document

/-- What two sources declare together. Of a section that has one value the later one counts. -/
def followedBy (first second : Document) : Document :=
  { app := second.app.or first.app
    data := first.data ++ second.data
    interfaces := first.interfaces ++ second.interfaces
    logic := first.logic ++ second.logic
    computed := first.computed ++ second.computed
    stateMachines := first.stateMachines ++ second.stateMachines
    realtime := first.realtime ++ second.realtime
    external := first.external ++ second.external
    integrations := second.integrations.or first.integrations
    deploy := second.deploy.or first.deploy
    order := first.order ++ second.order }

theorem ofDeclarations_append (first second : List Declaration) :
    ofDeclarations (first ++ second) =
      (ofDeclarations first).followedBy (ofDeclarations second) := by
  simp only [ofDeclarations, followedBy, List.filterMap_append, List.getLast?_append,
    List.map_append]

end Document

theorem Line.indent_of_declarationKind? {line : Line} {kind : DeclarationKind}
    (declares : line.declarationKind? = some kind) : line.indent = 0 := by
  unfold declarationKind? at declares
  split at declares
  · assumption
  · cases declares

/-- Two declarations that add the same to a document, and whose first fault is the same. -/
structure Declaration.Alike (same : Line → Line → Prop) (declaration declaration' : Declaration) :
    Prop where
  document : Document.ofDeclarations [declaration] = Document.ofDeclarations [declaration']
  fault : Option.Rel (Fault.Alike same) (Finding.firstFault? declaration.findings)
    (Finding.firstFault? declaration'.findings)

/-- Two readings that fail for the same cause, or that find and leave alike things. -/
inductive Reading.Alike (value : α → α → Prop) (alike : List Line → List Line → Prop) :
    Reading α → Reading α → Prop
  | error (cause : HeaderFault) : Alike value alike (.error cause) (.error cause)
  | ok {found found' rest rest'} : value found found' → alike rest rest' →
      Alike value alike (.ok (found, rest)) (.ok (found', rest'))

theorem Reading.Alike.map {value : α → α → Prop} {value' : β → β → Prop} {f : α → β}
    {alike : List Line → List Line → Prop} {reading reading' : Reading α}
    (matched : Reading.Alike value alike reading reading')
    (maps : ∀ found found', value found found' → value' (f found) (f found')) :
    Reading.Alike value' alike (reading.map (Prod.map f id)) (reading'.map (Prod.map f id)) := by
  cases matched with
  | error cause => exact .error cause
  | ok found rest => exact .ok (maps _ _ found) rest

namespace Correspondence

variable {same : Line → Line → Prop} {alike : List Line → List Line → Prop}
  (corresponds : Correspondence same alike) {line line' : Line} {lines lines' : List Line}

include corresponds

theorem readHeaded_alike {value : α → α → Prop} {keyword : Text}
    {take take' : Text → Text → α × List Line} (paired : same line line')
    (matched : ∀ name more, Header.named? keyword line.text = some (name, more) →
      value (take name more).1 (take' name more).1 ∧ alike (take name more).2 (take' name more).2) :
    Reading.Alike value alike (readHeaded keyword take line) (readHeaded keyword take' line') := by
  unfold readHeaded
  rw [← corresponds.text paired]
  cases parts : Header.named? keyword line.text with
  | none => exact .error _
  | some parts' =>
    obtain ⟨found, rest⟩ := matched _ _ parts
    exact .ok found rest

theorem readOwner_alike {keyword : Text} {ofBody : Text → List Line → α} (paired : same line line')
    (matched : alike lines lines')
    (body : ∀ name block block', alike block block' → ofBody name block = ofBody name block') :
    Reading.Alike Eq alike (readOwner keyword ofBody line lines)
      (readOwner keyword ofBody line' lines') := by
  have levels := corresponds.inner paired
  rw [readOwner_eq, readOwner_eq]
  refine corresponds.readHeaded_alike paired fun name _ _ => ⟨?_, ?_⟩
  · exact body name _ _ (corresponds.block levels matched)
  · exact corresponds.afterBlock levels matched

theorem readInterface_alike (paired : same line line') (matched : alike lines lines') :
    Reading.Alike (fun found found' => found.name = found'.name ∧
        Node.Alike same found.body found'.body) alike
      (readInterface line lines) (readInterface line' lines') := by
  have levels := corresponds.inner paired
  rw [readInterface_eq, readInterface_eq]
  refine corresponds.readHeaded_alike paired fun name _ _ => ⟨⟨rfl, ?_⟩, ?_⟩
  · exact corresponds.nodes_alike (corresponds.members levels matched)
  · exact corresponds.afterMembers levels matched

theorem readComputed_alike (atMargin : line.indent = 0) (paired : same line line')
    (matched : alike lines lines') :
    Reading.Alike Eq alike (readComputed line lines) (readComputed line' lines') := by
  have levels := corresponds.inner paired
  rw [readComputed_eq, readComputed_eq]
  refine corresponds.readHeaded_alike paired fun name more named => ?_
  unfold computedBody
  split
  · rename_i literal
    obtain ⟨content, after⟩ := corresponds.literal paired
      (Or.inr ⟨atMargin, name, more, named, literal⟩) matched
    exact ⟨by rw [content], after⟩
  · split
    · have settings := corresponds.settings_eq (corresponds.members levels matched)
      exact ⟨by rw [settings], corresponds.afterMembers levels matched⟩
    · exact ⟨rfl, matched⟩

theorem readNamed_alike (paired : same line line') (matched : alike lines lines') :
    Reading.Alike Eq alike (readNamed line lines) (readNamed line' lines') := by
  have after := corresponds.afterBlock (corresponds.inner paired) matched
  unfold readNamed Line.keyword?
  rw [← corresponds.text paired, ← corresponds.kind paired]
  cases Header.anyNamed? line.text with
  | none => exact .error _
  | some name => exact .ok rfl after

theorem readUnnamed_alike {ofBody : List Line → α} (paired : same line line')
    (matched : alike lines lines')
    (body : ∀ block block', alike block block' → ofBody block = ofBody block') :
    Reading.Alike Eq alike (readUnnamed ofBody line lines) (readUnnamed ofBody line' lines') := by
  have levels := corresponds.inner paired
  have after := corresponds.afterBlock levels matched
  unfold readUnnamed Line.keyword?
  rw [← corresponds.text paired, ← corresponds.kind paired,
    body _ _ (corresponds.block levels matched)]
  split
  · exact .ok rfl after
  · exact .error _

theorem declaration_alike (kind : DeclarationKind) (atMargin : line.indent = 0)
    (paired : same line line') (matched : alike lines lines') :
    Reading.Alike (Declaration.Alike same) alike (Declaration.read kind line lines)
      (Declaration.read kind line' lines') := by
  -- What is equal is alike, unless faults may stand inside it.
  have equal {α : Type} (declare : α → Declaration)
      (silent : ∀ found, Finding.firstFault? (declare found).findings = none) (found found' : α)
      (same' : found = found') : Declaration.Alike same (declare found) (declare found') := by
    subst same'
    exact ⟨rfl, by rw [silent]; exact .none⟩
  cases kind with
  | app =>
    refine (corresponds.readOwner_alike paired matched ?_).map (equal .app fun _ => rfl)
    exact fun name _ _ block => corresponds.app_eq name block
  | data =>
    refine (corresponds.readOwner_alike paired matched ?_).map
      (equal .data fun found => Declaration.firstFault?_findings _)
    exact fun name _ _ block => congrArg (DataBlock.mk name) (corresponds.fields_eq block)
  | interface =>
    refine (corresponds.readInterface_alike paired matched).map ?_
    rintro ⟨name, body⟩ ⟨_, body'⟩ ⟨rfl, nodes⟩
    refine ⟨?_, nodes.fault⟩
    simp [Document.ofDeclarations, InterfaceBlock.interface, nodes.elements, Declaration.entry]
  | computed =>
    exact (corresponds.readComputed_alike atMargin paired matched).map
      (equal .computed fun found => Declaration.firstFault?_findings _)
  | logic =>
    refine (corresponds.readOwner_alike paired matched ?_).map (equal .logic fun _ => rfl)
    exact fun _ _ _ _ => rfl
  | stateMachine =>
    exact (corresponds.readNamed_alike paired matched).map (equal .stateMachine fun _ => rfl)
  | realtime =>
    exact (corresponds.readNamed_alike paired matched).map (equal .realtime fun _ => rfl)
  | external =>
    exact (corresponds.readNamed_alike paired matched).map (equal .external fun _ => rfl)
  | integrations =>
    refine (corresponds.readUnnamed_alike paired matched ?_).map (equal .integrations fun _ => rfl)
    exact fun _ _ block => corresponds.namesOf_eq sectionName? block
  | deploy =>
    refine (corresponds.readUnnamed_alike paired matched ?_).map (equal .deploy fun _ => rfl)
    exact fun _ _ block => congrArg DeployConfig.ofEntries (corresponds.deployment_eq block)

theorem declarationKind (paired : same line line') :
    line.declarationKind? = line'.declarationKind? := by
  have margin := corresponds.margin paired
  simp only [Line.declarationKind?, Line.keyword?, corresponds.kind paired, margin]

end Correspondence

/-- Two outlines that make the same document, and whose first fault is the same. -/
structure Outline.Alike (same : Line → Line → Prop) (outline outline' : Outline) : Prop where
  document : Document.ofDeclarations outline.declarations =
    Document.ofDeclarations outline'.declarations
  fault : Option.Rel (Fault.Alike same) outline.fault? outline'.fault?

theorem Outline.Alike.declared {same : Line → Line → Prop} {declaration declaration' : Declaration}
    {outline outline' : Outline} (line line' : Line)
    (first : Declaration.Alike same declaration declaration')
    (rest : Outline.Alike same outline outline') :
    Outline.Alike same (.declared line declaration :: outline)
      (.declared line' declaration' :: outline') := by
  refine ⟨?_, ?_⟩
  · have split (line : Line) (declaration : Declaration) (outline : Outline) :
        declarations (.declared line declaration :: outline) =
          [declaration] ++ outline.declarations := rfl
    rw [split, split, Document.ofDeclarations_append, Document.ofDeclarations_append,
      first.document, rest.document]
  · rw [fault?_declared, fault?_declared]
    exact rel_or first.fault rest.fault

/-- The same document, or two faults that go together. -/
inductive Document.Matched (faults : Fault → Fault → Prop) :
    Except Fault Document → Except Fault Document → Prop
  | ok (document : Document) : Matched faults (.ok document) (.ok document)
  | error {fault fault' : Fault} : faults fault fault' →
      Matched faults (.error fault) (.error fault')

theorem Document.Matched.imp_of_error {faults faults' : Fault → Fault → Prop}
    {result result' : Except Fault Document} (matched : Matched faults result result')
    (weaker : ∀ fault fault', result = .error fault → faults fault fault' → faults' fault fault') :
    Matched faults' result result' := by
  cases matched with
  | ok document => exact .ok document
  | error paired => exact .error (weaker _ _ rfl paired)

theorem Document.Matched.imp {faults faults' : Fault → Fault → Prop}
    {result result' : Except Fault Document} (matched : Matched faults result result')
    (weaker : ∀ fault fault', faults fault fault' → faults' fault fault') :
    Matched faults' result result' :=
  matched.imp_of_error fun fault fault' _ => weaker fault fault'

theorem Outline.Alike.parse {same : Line → Line → Prop} {source source' : Text}
    (alike : Outline.Alike same (ofSource source) (ofSource source')) :
    Document.Matched (Fault.Alike same) (Document.parse source) (Document.parse source') := by
  have faults := alike.fault
  rw [Document.parse_eq, Document.parse_eq, alike.document]
  generalize (ofSource source).fault? = fault at faults
  generalize (ofSource source').fault? = fault' at faults
  cases faults with
  | none => exact .ok _
  | some paired => exact .error paired

/-- Lists of lines that are alike make the same document, or have the same fault. -/
theorem Correspondence.outline_alike {same : Line → Line → Prop}
    {alike : List Line → List Line → Prop} (corresponds : Correspondence same alike)
    {lines lines' : List Line} (matched : alike lines lines') :
    Outline.Alike same (Outline.read lines) (Outline.read lines') := by
  have skips (line : Line) (rest : List Line) (hidden : ¬line.isSignificant) :
      Outline.read (line :: rest) = Outline.read rest := Outline.read_insignificant hidden
  refine corresponds.induction
    (motive := fun lines lines' => Outline.Alike same (Outline.read lines) (Outline.read lines'))
    ?_ ?_ ?_ matched
  · intro lines lines' read
    rwa [eq_significantOn skips lines, eq_significantOn skips lines']
  · simpa using Outline.Alike.mk rfl Option.Rel.none
  · intro line line' rest rest' paired significant matchedRest ih
    have significant' := significant
    rw [corresponds.significant paired] at significant'
    have kind' := corresponds.declarationKind paired
    cases kind : line.declarationKind? with
    | none =>
      rw [kind] at kind'
      rw [Outline.read_unknown significant kind, Outline.read_unknown significant' kind'.symm]
      have after := ih _ _ (corresponds.afterBlock (corresponds.inner paired) matchedRest)
        (afterBlock_length_le _ _)
      exact ⟨after.document, after.fault⟩
    | some found =>
      rw [kind] at kind'
      have declaration := corresponds.declaration_alike found (Line.indent_of_declarationKind? kind) paired
        matchedRest
      have shrinks := Declaration.read_shrinks found line rest
      generalize reading : Declaration.read found line rest = outcome at declaration shrinks
      generalize reading' : Declaration.read found line' rest' = outcome' at declaration
      cases declaration with
      | error cause =>
        rw [Outline.read_malformed significant kind reading,
          Outline.read_malformed significant' kind'.symm reading']
        exact ⟨rfl, .some ⟨paired, rfl⟩⟩
      | ok first below =>
        rw [Outline.read_declared significant kind reading,
          Outline.read_declared significant' kind'.symm reading']
        exact .declared _ _ first (ih _ _ below (shrinks _ _ rfl))

end AppDescription
